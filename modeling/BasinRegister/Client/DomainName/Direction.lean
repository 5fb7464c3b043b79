import BasinRegister.Client.DomainName.Mark
import BasinRegister.Text.Punycode

/-!
# Directions

The direction in which a character of a name is written. A name that has a character of the scripts from right to left
may only have labels whose characters stay in place when the name is shown. The ranges run across characters that never
stand in a name.
-/

namespace BasinRegister.DomainName

/-- How a character takes part in the direction of a text. -/
inductive Direction where
  /-- A letter of a script from left to right. -/
  | leftToRight
  /-- A letter of a script from right to left. -/
  | rightToLeft
  /-- A European digit. -/
  | europeanNumber
  /-- An Arabic digit. -/
  | arabicNumber
  /-- A sign that takes the direction of its surroundings. -/
  | neutral
  /-- A mark, which goes with the character before it. -/
  | attached
  deriving DecidableEq, Repr

/-- The letters of the scripts from right to left. -/
def rightToLeftLetters : List (Nat × Nat) := Text.readRanges [
  "5BE 5C0 5C3 5C6 5D0-5F4 608 60B 60D 61B-64A 66D-66F 671-6D5 6E5-6E6 6EE-6EF 6FA-710 712-72F 74D-7A5 7B1-7EA",
  "7F4-7F5 7FA 7FE-815 81A 824 828 830-858 85E-88F 8A0-8C9 FBB2-FBC2 FE73 10800-1091B 10920-10A00 10A10-10A35",
  "10A40-10AE4 10AEB-10B35 10B40-10D23 10D4A-10D4F 10D6F-10D8F 10E80-10EA9 10EAD-10EC7 10ED1-10ED8 10F00-10F45",
  "10F51-10F81 10F86-10FF6 1E800-1E8CF 1E922-1E943 1E94B-1ED3D"]

/-- The European digits. -/
def europeanDigits : List (Nat × Nat) := Text.readRanges [
  "30-39 6F0-6F9 102E1-102FB"]

/-- The Arabic digits and the signs between them. -/
def arabicDigits : List (Nat × Nat) := Text.readRanges [
  "660-669 66B-66C 10D30-10D49 10E60-10E7E"]

/-- The signs without a direction. -/
def neutralSigns : List (Nat × Nat) := Text.readRanges [
  "21-2F 3A-60 7B-D7 F7 2B9-2BA 2C2-2CF 2D2-2ED 2EF-2FF 375 3F6 58A-58F 606-607 609-60A 60C 60E-60F 66A 6DE 6E9",
  "7F6-7F9 9F2-9F3 9FB AF1 BF3-BFA C78-C7E E3F F3A-F3D 1390-1399 1400 169B-169C 17DB 17F0-180A 1940-1945 19DE-19FF",
  "200C-20C1 2104-214D 218A-2335 237B-2394 2396-26AB 26AD-27FF 2900-2BFF 2CE5-2CEA 2CF9-2CFF 2E00-3004 3008-3020",
  "3030 3037 303D-303F 30A0 30FB 31C0-31E5 4DC0-4DFF A490-A4C6 A60D-A60F A673 A67E-A67F A700-A721 A788 A828-A82B",
  "A838-A839 A874-A877 AB6A-AB6B FBC3-FDFF FE45-FE46 10101 10140-1018C 10190-101A0 1091F 10B39-10B3F 10D6E 10ED0",
  "11052-11065 11660-1166C 11FD5-11FF1 16FE2 1CC00-1CEF0 1D1E9-1D241 1D245 1D300-1D356 1E2FF 1EEF0-1F12F",
  "1F16D-1F16F 1F1AD 1F260-1FBFA"]

/-- Marks that are written like letters from left to right. -/
def writtenMarks : List (Nat × Nat) := Text.readRanges ["CBF CC6 11A07-11A08 11C3F"]

/-- A mark with a place of its own that goes with the character before it all the same. -/
def followingMark : Char := Char.ofNat 0x1171E

namespace Direction

/-- The direction of a character of a name. -/
def of (c : Char) : Direction :=
  let n := c.toNat
  if Text.inRanges n rightToLeftLetters then .rightToLeft
  else if Text.inRanges n arabicDigits then .arabicNumber
  else if Text.inRanges n europeanDigits then .europeanNumber
  else if Text.inRanges n neutralSigns then .neutral
  else if c == followingMark || (isAttached c && !Text.inRanges n writtenMarks) then .attached
  else .leftToRight

end Direction

/-- Whether one of the characters makes a name be written in two directions. No ASCII character does. -/
def isTwoWay (cs : List Char) : Bool :=
  cs.any fun c =>
    !Text.Punycode.isBasic c && (Direction.of c == .rightToLeft || Direction.of c == .arabicNumber)

/-- The direction of the last character that is no mark. -/
def lastDirection? (directions : List Direction) : Option Direction :=
  directions.reverse.find? (· != .attached)

/-- Whether a label keeps its characters in place: it begins with a letter, has no letters of the other direction, ends
in a letter of its own or a digit, and does not mix European and Arabic digits. Digits of the Arabic kind go with
letters from right to left only. -/
def keepsPlaces (label : List Char) : Bool :=
  let directions := label.map Direction.of
  let last := lastDirection? directions
  match directions.head? with
  | none => true
  | some .leftToRight =>
    !directions.contains .rightToLeft && !directions.contains .arabicNumber &&
      (last == some .leftToRight || last == some .europeanNumber)
  | some .rightToLeft =>
    !directions.contains .leftToRight && last != some .neutral &&
      !(directions.contains .europeanNumber && directions.contains .arabicNumber)
  | some _ => false

end BasinRegister.DomainName
