namespace BracketBalance.Utf8

def replacement : Char := '\uFFFD'

/-- The bytes that may follow a lead byte, each as the least and the greatest one; none at all where no
character begins with the byte. -/
def tailRanges (lead : UInt8) : Option (List (UInt8 × UInt8)) :=
  if lead < 0x80 then some []
  else if lead < 0xC2 then none
  else if lead < 0xE0 then some [(0x80, 0xBF)]
  else if lead = 0xE0 then some [(0xA0, 0xBF), (0x80, 0xBF)]
  else if lead = 0xED then some [(0x80, 0x9F), (0x80, 0xBF)]
  else if lead < 0xF0 then some [(0x80, 0xBF), (0x80, 0xBF)]
  else if lead = 0xF0 then some [(0x90, 0xBF), (0x80, 0xBF), (0x80, 0xBF)]
  else if lead < 0xF4 then some [(0x80, 0xBF), (0x80, 0xBF), (0x80, 0xBF)]
  else if lead = 0xF4 then some [(0x80, 0x8F), (0x80, 0xBF), (0x80, 0xBF)]
  else none

def fitting : List (UInt8 × UInt8) → List UInt8 → List UInt8
  | (low, high) :: ranges, b :: bytes =>
    if low ≤ b ∧ b ≤ high then b :: fitting ranges bytes else []
  | _, _ => []

def leadBits (lead : UInt8) (tailLength : Nat) : Nat :=
  match tailLength with
  | 0 => lead.toNat
  | 1 => lead.toNat % 32
  | 2 => lead.toNat % 16
  | _ => lead.toNat % 8

/-- The character of a lead byte and its tail; every tail byte brings six bits. -/
def compose (lead : UInt8) (tail : List UInt8) : Char :=
  Char.ofNat (tail.foldl (fun code b => code * 64 + b.toNat % 64) (leadBits lead tail.length))

/-- What a lead byte stands for in front of other bytes, and how many of those belong to it. -/
def first (lead : UInt8) (bytes : List UInt8) : Char × Nat :=
  match tailRanges lead with
  | none => (replacement, 0)
  | some ranges =>
    let tail := fitting ranges bytes
    if tail.length = ranges.length then (compose lead tail, tail.length)
    else (replacement, tail.length)

def beginsChar (lead : UInt8) (bytes : List UInt8) : Bool :=
  match tailRanges lead with
  | none => false
  | some ranges => (fitting ranges bytes).length == ranges.length

def decode : List UInt8 → List Char
  | [] => []
  | lead :: bytes =>
    let (c, used) := first lead bytes
    c :: decode (bytes.drop used)
termination_by bytes => bytes.length
decreasing_by simp only [List.length_drop, List.length_cons]; omega

def decodeString (bytes : List UInt8) : String :=
  String.ofList (decode bytes)

/-- The text of a list of bytes that is UTF-8 throughout, which is to say that it is written so. -/
def decode? (bytes : List UInt8) : Option (List Char) :=
  if (decode bytes).flatMap String.utf8EncodeChar = bytes then some (decode bytes) else none

@[simp] theorem decode_nil : decode [] = [] := by
  rw [decode]

theorem decode_cons (lead : UInt8) (bytes : List UInt8) :
    decode (lead :: bytes) =
      (first lead bytes).1 :: decode (bytes.drop (first lead bytes).2) := by
  rw [decode]

theorem first_ascii {lead : UInt8} (h : lead < 0x80) (bytes : List UInt8) :
    first lead bytes = (Char.ofNat lead.toNat, 0) := by
  simp [first, tailRanges, h, fitting, compose, leadBits]

theorem decode_ascii_cons {b : UInt8} (h : b < 0x80) (bytes : List UInt8) :
    decode (b :: bytes) = Char.ofNat b.toNat :: decode bytes := by
  rw [decode_cons, first_ascii h, List.drop_zero]

end BracketBalance.Utf8
