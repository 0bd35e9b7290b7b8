/-!
# Bytes read as text

A reader of bytes needs their text even when they are not valid UTF-8: every longest start of a
character that breaks off is then shown as one U+FFFD. Input is read line by line; a line keeps the
newline that ends it, and only the last one may lack it.
-/
namespace DtoScaffold.Text

/-- How many continuation bytes follow the first byte `b` of a character, and the range of the first
of them. The ranges exclude overlong forms, surrogates and what lies beyond U+10FFFF. -/
def continuations? (b : UInt8) : Option (Nat × UInt8 × UInt8) :=
  if b < 0x80 then some (0, 0x80, 0xBF)
  else if 0xC2 ≤ b && b ≤ 0xDF then some (1, 0x80, 0xBF)
  else if b == 0xE0 then some (2, 0xA0, 0xBF)
  else if b == 0xED then some (2, 0x80, 0x9F)
  else if 0xE1 ≤ b && b ≤ 0xEF then some (2, 0x80, 0xBF)
  else if b == 0xF0 then some (3, 0x90, 0xBF)
  else if 0xF1 ≤ b && b ≤ 0xF3 then some (3, 0x80, 0xBF)
  else if b == 0xF4 then some (3, 0x80, 0x8F)
  else none

/-- The longest start of `bytes` that can continue a character with `count` bytes still to come. -/
def tailOf (count : Nat) (low high : UInt8) (bytes : List UInt8) : List UInt8 :=
  match count, bytes with
  | count + 1, b :: rest =>
    if low ≤ b && b ≤ high then b :: tailOf count 0x80 0xBF rest else []
  | _, _ => []

/-- The bits of a first byte that belong to the code point. -/
def leadBits (b : UInt8) (count : Nat) : Nat :=
  match count with
  | 0 => b.toNat
  | 1 => b.toNat % 32
  | 2 => b.toNat % 16
  | _ => b.toNat % 8

/-- The text of bytes, U+FFFD in place of each maximal stretch that breaks off. -/
def lossyChars (bytes : List UInt8) : List Char :=
  match bytes with
  | [] => []
  | b :: rest =>
    match continuations? b with
    | none => '\uFFFD' :: lossyChars rest
    | some (count, low, high) =>
      let tail := tailOf count low high rest
      let c :=
        if tail.length = count then
          Char.ofNat (tail.foldl (fun code t => code * 64 + t.toNat % 64) (leadBits b count))
        else '\uFFFD'
      c :: lossyChars (rest.drop tail.length)
termination_by bytes.length
decreasing_by
  · simp
  · simp only [List.length_drop, List.length_cons]
    omega

def lossy (bytes : ByteArray) : String :=
  String.ofList (lossyChars bytes.toList)

/-- The lines of an input, each with the newline that ends it. -/
def inputLines : List UInt8 → List (List UInt8)
  | [] => []
  | b :: rest =>
    if b == 0x0A then [b] :: inputLines rest
    else
      match inputLines rest with
      | [] => [[b]]
      | line :: lines => (b :: line) :: lines

theorem flatten_inputLines (bytes : List UInt8) : (inputLines bytes).flatten = bytes := by
  fun_induction inputLines bytes with
  | case1 => rfl
  | case2 b rest ends ih => simp [ih]
  | case3 b rest inside none ih => simp_all
  | case4 b rest inside line lines more ih => simp_all

end DtoScaffold.Text
