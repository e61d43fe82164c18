import Provision.Text.Mark

/-!
# Writing direction

Characters are written from left to right or from right to left, or take the direction of what is
around them. A text that mixes both directions can be read in one way only if each of its parts
keeps to some rules.

* `Text.direction` is the class of an assigned character.
* `Text.isSettled` decides the rules for one part.
-/

namespace Provision.Text

/-- The classes of characters by direction. -/
inductive Direction where
  /-- From left to right. -/
  | left
  /-- From right to left. -/
  | right
  /-- From right to left, as in Arabic. -/
  | arabic
  | europeanNumber
  | europeanSeparator
  | europeanTerminator
  | arabicNumber
  | commonSeparator
  | nonspacingMark
  | boundaryNeutral
  | otherNeutral
deriving DecidableEq, Repr

/-- Characters written from right to left. -/
def rightLetters : CodeTable := .ofText "
  5BE 5C0 5C3 5C6 5D0,5F4 7C0,7EA 7F4,7F5 7FA 7FE,815 81A 824 828 830,858 85E 200F FB1D FB1F,FB28
  FB2A,FB4F 10800,1091B 10920,10A00 10A10,10A35 10A40,10AE4 10AEB,10B35 10B40,10CFF 10D4A,10D65
  10D6F,10D8F 10E80,10EA9 10EAD,10EB1 10F00,10F27 10F70,10F81 10F86,10FF6 1E800,1E8CF 1E900,1E943
  1E94B,1E95F"

/-- Characters written from right to left as in Arabic. -/
def arabicLetters : CodeTable := .ofText "
  608 60B 60D 61B,64A 66D,66F 671,6D5 6E5,6E6 6EE,6EF 6FA,710 712,72F 74D,7A5 7B1 860,88F 8A0,8C9
  FB50,FBC2 FBD3,FD3D FD50,FD8F FD92,FDC7 FDF0,FDFC FE70,FEFC 10D00,10D23 10EC2,10EC7 10F30,10F45
  10F51,10F59 1EC71,1EEBB"

/-- Figures that are written alike in both directions. -/
def europeanNumbers : CodeTable := .ofText "
  30,39 B2,B3 B9 6F0,6F9 2070 2074,2079 2080,2089 2488,249B FF10,FF19 102E1,102FB 1CCF0,1CCF9
  1D7CE,1D7FF 1F100,1F10A 1FBF0,1FBF9"

/-- Signs between or before such figures. -/
def europeanSeparators : CodeTable := .ofText "
  2B 2D 207A,207B 208A,208B 2212 FB29 FE62,FE63 FF0B FF0D"

/-- Signs next to such figures, as those of currencies. -/
def europeanTerminators : CodeTable := .ofText "
  23,25 A2,A5 B0,B1 58F 609,60A 66A 9F2,9F3 9FB AF1 BF9 E3F 17DB 2030,2034 20A0,20CF 212E 2213
  A838,A839 FE5F FE69,FE6A FF03,FF05 FFE0,FFE1 FFE5,FFE6 11FDD,11FE0 1E2FF"

/-- Figures and signs of numbers as in Arabic. -/
def arabicNumbers : CodeTable := .ofText "
  600,605 660,669 66B,66C 6DD 890,891 8E2 10D30,10D49 10E60,10E7E"

/-- Signs between figures of both kinds. -/
def commonSeparators : CodeTable := .ofText "
  2C 2E,2F 3A A0 60C 202F 2044 FE50 FE52 FE55 FF0C FF0E,FF0F FF1A"

/-- Characters that are not to be seen. -/
def boundaryNeutrals : CodeTable := .ofText "
  0,8 E,1B 7F,84 86,9F AD 180E 200B,200D 2060,2064 206A,206F FEFF 1BCA0,1BCA3 1D173,1D17A
  E0001,E007F"

/-- Characters without a direction. -/
def otherNeutrals : CodeTable := .ofText "
  21,22 26,2A 3B,40 5B,60 7B,7E A1 A6,A9 AB,AC AE,AF B4 B6,B8 BB,BF D7 F7 2B9,2BA 2C2,2CF 2D2,2DF
  2E5,2ED 2EF,2FF 374,375 37E 384,385 387 3F6 58A,58E 606,607 60E,60F 6DE 6E9 7F6,7F9 BF3,BF8 BFA
  C78,C7E F3A,F3D 1390,1399 1400 169B,169C 17F0,180A 1940,1945 19DE,19FF 1FBD 1FBF,1FC1 1FCD,1FCF
  1FDD,1FDF 1FED,1FEF 1FFD,1FFE 2010,2027 2035,2043 2045,205E 207C,207E 208C,208E 2100,2101
  2103,2106 2108,2109 2114 2116,2118 211E,2123 2125 2127 2129 213A,213B 2140,2144 214A,214D
  2150,215F 2189,2211 2214,2335 237B,2394 2396,2487 24EA,26AB 26AD,27FF 2900,2BFF 2CE5,2CEA
  2CF9,2CFF 2E00,2FFF 3001,3004 3008,3020 3030 3036,3037 303D,303F 309B,309C 30A0 30FB 31C0,31EF
  321D,321E 3250,325F 327C,327E 32B1,32BF 32CC,32CF 3377,337A 33DE,33DF 33FF 4DC0,4DFF A490,A4C6
  A60D,A60F A673 A67E,A67F A700,A721 A788 A828,A82B A874,A877 AB6A,AB6B FBC3,FBD2 FD3E,FD4F
  FD90,FD91 FDC8,FDCF FDFD,FDFF FE10,FE19 FE30,FE4F FE51 FE54 FE56,FE5E FE60,FE61 FE64,FE68 FE6B
  FF01,FF02 FF06,FF0A FF1B,FF20 FF3B,FF40 FF5B,FF65 FFE2,FFE4 FFE8,FFFD 10101 10140,1018C
  10190,101A0 1091F 10B39,10B3F 10D6E 10ED0,10ED8 11052,11065 11660,1166C 11FD5,11FDC 11FE1,11FF1
  16FE2 1CC00,1CCD5 1CCFA,1CEF0 1D1E9,1D241 1D245 1D300,1D356 1D6C1 1D6DB 1D6FB 1D715 1D735 1D74F
  1D76F 1D789 1D7A9 1D7C3 1EEF0,1F0F5 1F10B,1F10F 1F12F 1F16A,1F16F 1F1AD 1F260,1FBEF 1FBFA"

/-- The nonspacing marks that count as letters from left to right. -/
def leftMarks : List Nat := [0xCBF, 0xCC6, 0x11A07, 0x11A08, 0x11C3F]

/-- The class of an assigned character. -/
def direction (c : Char) : Direction :=
  let n := c.toNat
  if isNonspacing c then if leftMarks.contains n then .left else .nonspacingMark
  else if rightLetters.spans n then .right
  else if arabicLetters.spans n then .arabic
  else if europeanNumbers.spans n then .europeanNumber
  else if europeanSeparators.spans n then .europeanSeparator
  else if europeanTerminators.spans n then .europeanTerminator
  else if arabicNumbers.spans n then .arabicNumber
  else if commonSeparators.spans n then .commonSeparator
  else if boundaryNeutrals.spans n then .boundaryNeutral
  else if otherNeutrals.spans n then .otherNeutral
  else .left

namespace Direction

/-- Does a character of the class make a text one that mixes directions? -/
def isRightward (d : Direction) : Bool := [right, arabic, arabicNumber].contains d

/-- May the class stand in a part of either direction? -/
def isShared (d : Direction) : Bool :=
  [europeanNumber, europeanSeparator, europeanTerminator, commonSeparator, nonspacingMark,
    boundaryNeutral, otherNeutral].contains d

/-- The classes without the nonspacing marks at the end. -/
def trimMarks (ds : List Direction) : List Direction :=
  (ds.reverse.dropWhile (· == nonspacingMark)).reverse

/-- The rules for a part that starts with a letter from left to right. -/
def isSettledLeft (ds : List Direction) : Bool :=
  ds.all (fun d => d == left || d.isShared)
    && ((trimMarks ds).getLast?.map fun d => d == left || d == europeanNumber) == some true

/-- The rules for a part that starts with a letter from right to left. -/
def isSettledRight (ds : List Direction) : Bool :=
  ds.all (fun d => d.isRightward || d.isShared)
    && ((trimMarks ds).getLast?.map fun d => d.isRightward || d == europeanNumber) == some true
    && !(ds.contains europeanNumber && ds.contains arabicNumber)

end Direction

/-- Can a part of a text that mixes directions be read in one way only? -/
def isSettled (cs : List Char) : Bool :=
  match cs.map direction with
  | [] => true
  | .left :: ds => Direction.isSettledLeft (.left :: ds)
  | .right :: ds => Direction.isSettledRight (.right :: ds)
  | .arabic :: ds => Direction.isSettledRight (.arabic :: ds)
  | _ => false

end Provision.Text
