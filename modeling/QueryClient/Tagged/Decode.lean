import QueryClient.Error
import QueryClient.Json.Printer
import QueryClient.Tagged.Header
import QueryClient.Text.Blank
import QueryClient.Text.Numeral
import QueryClient.Value.Basic

/-!
# Reading tagged values

The reader of the form that `Tagged.encode` writes. It also takes tags in lower case, any tag of a
scalar type whose values have another form (such as a tagged boolean), integers with a plus sign
or leading zeros, and JSON numbers other than 64-bit integers, which it reads as doubles.
-/

namespace QueryClient.Tagged

open Text (readWithin?)

/-- The failure of a text that is no tagged value. -/
def malformed (text : List Char) : ClientError :=
  .protocol ("malformed tagged value '" ++ String.ofList text ++ "'")

/-- The signed integer of a payload, if it fits the given number of bits. -/
def readBits? (bits : Nat) (payload : List Char) : Option Int :=
  readWithin? (-(Nat.pow 2 (bits - 1) : Int)) (Nat.pow 2 (bits - 1)) payload

/-- The value of a payload of a scalar type; nothing if the payload is malformed. -/
def decodePayload? (t : Datatype) (payload : List Char) : Option Value :=
  match t with
  | .tinyInt => (readBits? 8 payload).map fun n => .tinyInt (Int8.ofInt n)
  | .smallInt => (readBits? 16 payload).map fun n => .smallInt (Int16.ofInt n)
  | .integer => (readBits? 32 payload).map fun n => .integer (Int32.ofInt n)
  | .bigInt => (readBits? 64 payload).map fun n => .bigInt (Int64.ofInt n)
  | .float => (readBits? 32 payload).map fun n => .float ⟨(Int32.ofInt n).toUInt32⟩
  | .double => (readBits? 64 payload).map fun n => .double ⟨(Int64.ofInt n).toUInt64⟩
  | .string => some (.string (String.ofList payload))
  | .missing => some .missing
  | .null => some .null
  | .boolean =>
    if payload = "true".toList ∨ payload = ['1'] then some (.boolean true)
    else if payload = "false".toList ∨ payload = ['0'] then some (.boolean false)
    else none
  | .datetime => ((readBits? 64 payload).bind Datetime.ofMillis?).map .datetime
  | .date => ((readBits? 64 payload).bind Date.ofDays?).map .date
  | .time => (readBits? 64 payload).map fun n => .time (Time.ofMillis n)
  | .duration => do
    let (months, millis) ← Text.splitOnce ':' payload
    let m ← readBits? 32 months
    let t ← readBits? 64 millis
    return .duration (Int32.ofInt m) (Int64.ofInt t)
  | .yearMonthDuration => (readBits? 32 payload).map fun n => .yearMonthDuration (Int32.ofInt n)
  | .dayTimeDuration => (readBits? 64 payload).map fun n => .dayTimeDuration (Int64.ofInt n)
  | .uuid => (Uuid.read? payload).map .uuid
  | .array | .multiset | .object | .any => none

/-- Whether values of a type have no text form. -/
def isContainer : Datatype → Bool
  | .array | .multiset | .object | .any => true
  | _ => false

/-- The value of the text `text`, whose tag is the number `tag`. -/
def decodeTag (tag : Nat) (payload text : List Char) : Result Value :=
  match Datatype.ofTag? tag with
  | none =>
    .error (.protocol ("unrecognized type tag 0x" ++ String.ofList (Text.upperHexText 2 tag)))
  | some t =>
    if isContainer t then
      .error (.protocol ("container type " ++ t.typeName ++ " cannot be carried in text form"))
    else
      match decodePayload? t payload with
      | some v => .ok v
      | none => .error (malformed text)

/-- The value of a JSON string: everything behind a colon, or two hexadecimal digits, a colon and
a payload of the type with that tag. -/
def decodeText (text : List Char) : Result Value :=
  match text with
  | ':' :: rest => .ok (.string (String.ofList rest))
  | _ =>
    if headed : isHeaded text = true then
      match Text.readHex? (tagDigits text headed) with
      | some tag => decodeTag tag (payload text headed) text
      | none => .error (malformed text)
    else .error (malformed text)

/-- A header is read, and the payload is what follows it. -/
theorem decodeText_header {a b : Char} {high low : Nat} (ha : Text.hexValue? a = some high)
    (hb : Text.hexValue? b = some low) (rest : List Char) :
    decodeText (a :: b :: ':' :: rest) =
      decodeTag (16 * high + low) rest (a :: b :: ':' :: rest) := by
  have headed : isHeaded (a :: b :: ':' :: rest) = true :=
    isHeaded_iff.mpr ⟨a, b, high, low, rest, rfl, ha, hb⟩
  have hread : Text.readHex? (tagDigits (a :: b :: ':' :: rest) headed) = some (16 * high + low) := by
    rw [tagDigits_cons ha hb]
    simp [Text.readHex?, ha, hb]
  unfold decodeText
  split
  · -- a colon is no digit
    next heq =>
    obtain ⟨rfl, -⟩ := List.cons.inj heq
    cases ha
  · rw [dif_pos headed, hread, payload_cons ha hb]

theorem decodeText_of_not_isHeaded {text : List Char} (hcolon : ∀ rest, text ≠ ':' :: rest)
    (h : isHeaded text ≠ true) : decodeText text = .error (malformed text) := by
  unfold decodeText
  split
  · next rest => exact absurd rfl (hcolon rest)
  · rw [dif_neg h]

/-- The value of a JSON number: an integer if it is one of 64 bits, and else a double. -/
def decodeNumber (j : Json) : Result Value :=
  match j.toInt64? with
  | some n => .ok (.bigInt n)
  | none =>
    match j.toBinary64? with
    | some x => .ok (.double x)
    | none => .error (.protocol ("number out of range: " ++ j.text))

mutual

/-- The value of a JSON form. -/
def decode : Json → Result Value
  | .null => .ok .null
  | .bool b => .ok (.boolean b)
  | .int n => decodeNumber (.int n)
  | .double x => decodeNumber (.double x)
  | .string s => decodeText s.toList
  | .array items => (decodeItems items).map .array
  | .object members => (decodeMembers members).map .object

/-- The values of the elements of an array; the first failure ends it. -/
def decodeItems : List Json → Result (List Value)
  | [] => .ok []
  | j :: rest => do
    let v ← decode j
    let vs ← decodeItems rest
    return v :: vs

/-- The fields of an object; the first failure ends it. -/
def decodeMembers : List (String × Json) → Result (List (String × Value))
  | [] => .ok []
  | (name, j) :: rest => do
    let v ← decode j
    let vs ← decodeMembers rest
    return (name, v) :: vs

end

end QueryClient.Tagged
