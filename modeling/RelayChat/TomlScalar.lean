import RelayChat.TomlNode

/-!
# Keys, texts, numbers and dates in TOML

The parts of a document that hold no others. Every reader takes what it can
from the front of the characters and gives the rest; `none` means that the
document is malformed. Integers have 64 bits with a sign, and a decimal number
must not be too large for a double.
-/

namespace RelayChat.TomlScalar

/-- A character that may stand in text and comments as it is: a tab, or anything
but a control character of ASCII. -/
def isPlain (c : Char) : Bool :=
  c == '\t' || (0x20 ≤ c.toNat && c.toNat != 0x7F)

/-- Blanks within a line. -/
def isBlank (c : Char) : Bool :=
  c == ' ' || c == '\t'

/-- What follows blanks. -/
def skipBlanks (s : List Char) : List Char :=
  s.dropWhile isBlank

/-- What follows a line end, which is a line feed with or without a carriage
return. -/
def newline? : List Char → Option (List Char)
  | '\n' :: rest => some rest
  | '\r' :: '\n' :: rest => some rest
  | _ => none

/-- What follows a comment, if there is one. -/
def skipComment (s : List Char) : List Char :=
  match s with
  | '#' :: rest => rest.dropWhile isPlain
  | _ => s

/-- The value of a digit of hexadecimal or of a smaller base. -/
def digitValue? (base : Nat) (c : Char) : Option Nat :=
  let value :=
    if '0' ≤ c ∧ c ≤ '9' then c.toNat - '0'.toNat
    else if 'a' ≤ c ∧ c ≤ 'f' then c.toNat - 'a'.toNat + 10
    else if 'A' ≤ c ∧ c ≤ 'F' then c.toNat - 'A'.toNat + 10
    else base
  if value < base then some value else none

/-- Whether a character is a digit of a base. -/
def isDigit (base : Nat) (c : Char) : Bool :=
  (digitValue? base c).isSome

/-- The number that digits write in a base; other characters count nothing. -/
def numeral (base : Nat) (digits : List Char) : Nat :=
  (digits.filterMap (digitValue? base)).foldl (fun n digit => n * base + digit) 0

/-- The character of a code point in hexadecimal, if there is one. -/
def codePoint? (digits : List Char) : Option Char :=
  let n := numeral 16 digits
  if digits.all (isDigit 16) ∧ n.isValidChar then some (Char.ofNat n) else none

/-- The character that a backslash and what follows it stand for. -/
def escape? : List Char → Option (Char × List Char)
  | 'b' :: rest => some ('\x08', rest)
  | 't' :: rest => some ('\t', rest)
  | 'n' :: rest => some ('\n', rest)
  | 'f' :: rest => some ('\x0c', rest)
  | 'r' :: rest => some ('\r', rest)
  | '"' :: rest => some ('"', rest)
  | '\\' :: rest => some ('\\', rest)
  | 'u' :: rest =>
    if rest.length < 4 then none else (codePoint? (rest.take 4)).map (·, rest.drop 4)
  | 'U' :: rest =>
    if rest.length < 8 then none else (codePoint? (rest.take 8)).map (·, rest.drop 8)
  | _ => none

/-- Puts a character in front of what was read. -/
def prepend (c : Char) : Option (List Char × List Char) → Option (List Char × List Char)
  | some (text, rest) => some (c :: text, rest)
  | none => none

/-- The rest of a text in double quotes. The number bounds the characters. -/
def basicRest : Nat → List Char → Option (List Char × List Char)
  | 0, _ => none
  | _ + 1, '"' :: rest => some ([], rest)
  | bound + 1, '\\' :: rest =>
    match escape? rest with
    | some (c, rest) => prepend c (basicRest bound rest)
    | none => none
  | bound + 1, c :: rest => if isPlain c then prepend c (basicRest bound rest) else none
  | _ + 1, [] => none

/-- The rest of a text in single quotes. -/
def literalRest : List Char → Option (List Char × List Char)
  | '\'' :: rest => some ([], rest)
  | c :: rest => if isPlain c then prepend c (literalRest rest) else none
  | [] => none

/-- What follows a line break and all blanks and line breaks after it. The
number bounds the characters. -/
def skipLineBreaks : Nat → List Char → List Char
  | 0, s => s
  | bound + 1, s =>
    match s with
    | ' ' :: rest => skipLineBreaks bound rest
    | '\t' :: rest => skipLineBreaks bound rest
    | _ =>
      match newline? s with
      | some rest => skipLineBreaks bound rest
      | none => s

/-- The end of a text between three quotes, at a place where there are at least
three: up to two more belong to the text. -/
def closeLong (quote : Char) (s : List Char) : List Char × List Char :=
  let run := (s.takeWhile (· == quote)).length
  let extra := min (run - 3) 2
  (List.replicate extra quote, s.drop (extra + 3))

/-- The rest of a text between three double quotes. A backslash at the end of a
line joins the text to its next visible character. The number bounds the
characters. -/
def longBasicRest : Nat → List Char → Option (List Char × List Char)
  | 0, _ => none
  | bound + 1, s =>
    match s with
    | [] => none
    | '"' :: '"' :: '"' :: _ => some (closeLong '"' s)
    | '\\' :: rest =>
      match newline? (skipBlanks rest) with
      | some next => longBasicRest bound (skipLineBreaks next.length next)
      | none =>
        match escape? rest with
        | some (c, rest) => prepend c (longBasicRest bound rest)
        | none => none
    | c :: rest =>
      match newline? s with
      | some next => prepend '\n' (longBasicRest bound next)
      | none => if isPlain c then prepend c (longBasicRest bound rest) else none

/-- The rest of a text between three single quotes. The number bounds the
characters. -/
def longLiteralRest : Nat → List Char → Option (List Char × List Char)
  | 0, _ => none
  | bound + 1, s =>
    match s with
    | [] => none
    | '\'' :: '\'' :: '\'' :: _ => some (closeLong '\'' s)
    | c :: rest =>
      match newline? s with
      | some next => prepend '\n' (longLiteralRest bound next)
      | none => if isPlain c then prepend c (longLiteralRest bound rest) else none

/-- What follows the line end that may come right after three quotes. -/
def afterOpening (s : List Char) : List Char :=
  (newline? s).getD s

/-- A text in quotes that must end on its line. -/
def shortString? : List Char → Option (List Char × List Char)
  | '"' :: rest => basicRest (rest.length + 1) rest
  | '\'' :: rest => literalRest rest
  | _ => none

/-- A text in quotes of any kind. -/
def string? (s : List Char) : Option (List Char × List Char) :=
  match s with
  | '"' :: '"' :: '"' :: rest => longBasicRest (rest.length + 1) (afterOpening rest)
  | '\'' :: '\'' :: '\'' :: rest => longLiteralRest (rest.length + 1) (afterOpening rest)
  | _ => shortString? s

/-- A character of a key without quotes. -/
def isBareKeyChar (c : Char) : Bool :=
  c.isAlphanum || c == '-' || c == '_'

/-- One part of a key. -/
def simpleKey? (s : List Char) : Option (String × List Char) :=
  match shortString? s with
  | some (key, rest) => some (String.ofList key, rest)
  | none =>
    let key := s.takeWhile isBareKeyChar
    if key.isEmpty then none else some (String.ofList key, s.dropWhile isBareKeyChar)

/-- The most parts that a key may have. -/
def maxKeyParts : Nat := 79

/-- A key of at most so many parts with dots between them, and blanks around. -/
def keyOf? : Nat → List Char → Option (List String × List Char)
  | 0, _ => none
  | parts + 1, s => do
    let (key, rest) ← simpleKey? (skipBlanks s)
    match skipBlanks rest with
    | '.' :: rest => do
      let (keys, rest) ← keyOf? parts rest
      return (key :: keys, rest)
    | rest => return ([key], rest)

/-- A key: the parts before the last, and the last. -/
def key? (s : List Char) : Option (List String × String × List Char) := do
  let (keys, rest) ← keyOf? maxKeyParts s
  let last ← keys.getLast?
  return (keys.dropLast, last, rest)

/-- Digits of a base with single underscores between them, and the rest. -/
def digitsOf? (base : Nat) : List Char → Option (List Char × List Char)
  | c :: '_' :: rest =>
    if isDigit base c then prepend c (digitsOf? base rest) else none
  | c :: rest =>
    if !isDigit base c then none
    else if (rest.head?.map (isDigit base)).getD false then prepend c (digitsOf? base rest)
    else some ([c], rest)
  | [] => none

/-- Digits of a decimal whole number: a zero stands alone in front. -/
def wholeDigits? (s : List Char) : Option (List Char × List Char) :=
  match s with
  | '0' :: rest => some (['0'], rest)
  | _ => digitsOf? 10 s

/-- The least and the greatest whole number. -/
def inRange (n : Int) : Bool :=
  -0x8000000000000000 ≤ n && n < 0x8000000000000000

/-- A whole number with its sign. -/
def integer? (negative : Bool) (n : Nat) : Option TomlNode :=
  let value : Int := if negative then -n else n
  if inRange value then some (.integer value) else none

/-- The least number that is nearer to the power of two after the greatest
double than to that double itself. -/
def overflowThreshold : Nat :=
  Nat.pow 2 1024 - Nat.pow 2 970

/-- Whether digits with so many of them after the point, times a power of ten,
are too large for a double. Only numbers whose magnitude is near the threshold
are compared with it. -/
def overflows (digits : List Char) (places : Nat) (exponent : Int) : Bool :=
  let mantissa := numeral 10 digits
  let power := exponent - places
  let magnitude : Int := (digits.dropWhile (· == '0')).length + power
  if mantissa = 0 || magnitude < 300 then false
  else if 400 < magnitude then true
  else if 0 ≤ power then overflowThreshold ≤ mantissa * Nat.pow 10 power.toNat
  else overflowThreshold * Nat.pow 10 (-power).toNat ≤ mantissa

/-- The sign in front of a number, if there is one, and the rest. -/
def sign : List Char → Bool × List Char
  | '-' :: rest => (true, rest)
  | '+' :: rest => (false, rest)
  | s => (false, s)

/-- The digits after a point, if there is one. -/
def fraction? (s : List Char) : Option (List Char × List Char) :=
  match s with
  | '.' :: rest => digitsOf? 10 rest
  | _ => some ([], s)

/-- A power of ten after a number, if there is one. -/
def exponent? (s : List Char) : Option (Int × List Char) :=
  match s with
  | c :: rest =>
    if c == 'e' || c == 'E' then do
      let (negative, rest) := sign rest
      let (digits, rest) ← digitsOf? 10 rest
      let n : Int := numeral 10 digits
      return (if negative then -n else n, rest)
    else some (0, s)
  | [] => some (0, s)

/-- Whether a number goes on after its whole part. -/
def goesOn : List Char → Bool
  | c :: _ => c == '.' || c == 'e' || c == 'E'
  | [] => false

/-- A decimal number, whole or not, after its sign. -/
def decimal? (negative : Bool) (s : List Char) : Option (TomlNode × List Char) := do
  let (whole, rest) ← wholeDigits? s
  if goesOn rest then
    let (places, rest) ← fraction? rest
    let (exponent, rest) ← exponent? rest
    if !negative && overflows (whole ++ places) places.length exponent then none
    else return (.float, rest)
  else
    let node ← integer? negative (numeral 10 whole)
    return (node, rest)

/-- A whole number in a base. -/
def based? (base : Nat) (s : List Char) : Option (TomlNode × List Char) := do
  let (digits, rest) ← digitsOf? base s
  let node ← integer? false (numeral base digits)
  return (node, rest)

/-- A number of exactly so many decimal digits within bounds. -/
def field? (width low high : Nat) (s : List Char) : Option (Nat × List Char) :=
  let digits := s.take width
  let n := numeral 10 digits
  if digits.length = width ∧ digits.all (isDigit 10) ∧ low ≤ n ∧ n ≤ high then
    some (n, s.drop width)
  else none

/-- What follows a given character. -/
def expect? (c : Char) : List Char → Option (List Char)
  | d :: rest => if d = c then some rest else none
  | [] => none

/-- The days of a month. -/
def daysOfMonth (year month : Nat) : Nat :=
  if month = 2 then
    if year % 4 = 0 ∧ (year % 100 ≠ 0 ∨ year % 400 = 0) then 29 else 28
  else if month = 4 ∨ month = 6 ∨ month = 9 ∨ month = 11 then 30
  else 31

/-- What follows a date. -/
def date? (s : List Char) : Option (List Char) := do
  let (year, rest) ← field? 4 0 9999 s
  let rest ← expect? '-' rest
  let (month, rest) ← field? 2 1 12 rest
  let rest ← expect? '-' rest
  let (_, rest) ← field? 2 1 (daysOfMonth year month) rest
  return rest

/-- What follows the decimal places of a second, if there are any. -/
def secondPlaces (s : List Char) : List Char :=
  match s with
  | '.' :: c :: rest => if isDigit 10 c then rest.dropWhile (isDigit 10) else s
  | _ => s

/-- What follows a time of day. A minute may have a leap second. -/
def time? (s : List Char) : Option (List Char) := do
  let (_, rest) ← field? 2 0 23 s
  let rest ← expect? ':' rest
  let (_, rest) ← field? 2 0 59 rest
  let rest ← expect? ':' rest
  let (_, rest) ← field? 2 0 60 rest
  return secondPlaces rest

/-- What follows the offset of a time of day, if there is one. -/
def offset? (s : List Char) : Option (List Char) :=
  match s with
  | c :: rest =>
    if c == 'Z' || c == 'z' then some rest
    else if c == '+' || c == '-' then do
      let (_, rest) ← field? 2 0 23 rest
      let rest ← expect? ':' rest
      let (_, rest) ← field? 2 0 59 rest
      return rest
    else some s
  | [] => some s

/-- Whether a time of day begins here. -/
def beginsTime : List Char → Bool
  | a :: b :: ':' :: _ => isDigit 10 a && isDigit 10 b
  | _ => false

/-- Whether a date begins here. -/
def beginsDate : List Char → Bool
  | a :: b :: c :: d :: '-' :: _ =>
    isDigit 10 a && isDigit 10 b && isDigit 10 c && isDigit 10 d
  | _ => false

/-- What follows a date, with a time of day and an offset if they follow it. -/
def dateTime? (s : List Char) : Option (List Char) := do
  let rest ← date? s
  match rest with
  | c :: next =>
    if (c == 'T' || c == 't' || c == ' ') && beginsTime next then
      let rest ← time? next
      offset? rest
    else return rest
  | [] => return rest

/-- What follows a given word. -/
def word? (word : String) (s : List Char) : Option (List Char) :=
  if word.toList.isPrefixOf s then some (s.drop word.toList.length) else none

/-- The numbers that are no decimals. -/
def special? (s : List Char) : Option (TomlNode × List Char) :=
  match word? "inf" s, word? "nan" s with
  | some rest, _ => some (.float, rest)
  | none, some rest => some (.float, rest)
  | none, none => none

/-- A truth value. -/
def boolean? (s : List Char) : Option (TomlNode × List Char) :=
  match word? "true" s, word? "false" s with
  | some rest, _ => some (.boolean true, rest)
  | none, some rest => some (.boolean false, rest)
  | none, none => none

/-- A number, a date or a time of day. -/
def number? (s : List Char) : Option (TomlNode × List Char) :=
  if beginsDate s then (dateTime? s).map (.moment, ·)
  else if beginsTime s then (time? s).map (.moment, ·)
  else match s with
    | '0' :: 'x' :: rest => based? 16 rest
    | '0' :: 'o' :: rest => based? 8 rest
    | '0' :: 'b' :: rest => based? 2 rest
    | _ =>
      let (negative, rest) := sign s
      match special? rest with
      | some found => some found
      | none => decimal? negative rest

/-- A value that holds no others. -/
def scalar? (s : List Char) : Option (TomlNode × List Char) :=
  match string? s with
  | some (text, rest) => some (.text (String.ofList text), rest)
  | none =>
    match boolean? s with
    | some found => some found
    | none => number? s

end RelayChat.TomlScalar
