import QueryClient.Proofs.Calendar
import QueryClient.Proofs.Members
import QueryClient.Proofs.Text.Digits
import QueryClient.Proofs.Uuid
import QueryClient.Tagged.Decode
import QueryClient.Tagged.Encode

/-!
# Values that are sent and read back

A value that is sent and read back has lost what its form on the wire does not tell. `Value.normal`
is what is left of it. Main statement: `decode_encode_value`.
-/

namespace QueryClient

namespace Value

/-! ## What is left of a value -/

mutual

/-- What a value reads back as: multisets are arrays, NaNs are the canonical ones, times show whole
milliseconds and no leap seconds, and of a repeated name the first position and the last value
remain. -/
def normal : Value → Value
  | .float x => .float x.canonical
  | .double x => .double x.canonical
  | .time t => .time t.onClock
  | .datetime d => .datetime d.onClock
  | .array items => .array (normalItems items)
  | .multiset items => .array (normalItems items)
  | .object fields => .object (Members.latest (normalFields fields))
  | v => v

/-- What the elements of a container read back as. -/
def normalItems : List Value → List Value
  | [] => []
  | v :: rest => v.normal :: normalItems rest

/-- What the fields of an object read back as, before repeated names are put together. -/
def normalFields : List (String × Value) → List (String × Value)
  | [] => []
  | (name, v) :: rest => (name, v.normal) :: normalFields rest

end

mutual

/-- No date-time anywhere in the value lies beyond the calendar. -/
def InCalendar : Value → Prop
  | .datetime d => ¬d.isBeyond
  | .array items => InCalendarItems items
  | .multiset items => InCalendarItems items
  | .object fields => InCalendarFields fields
  | _ => True

/-- No date-time in the elements lies beyond the calendar. -/
def InCalendarItems : List Value → Prop
  | [] => True
  | v :: rest => v.InCalendar ∧ InCalendarItems rest

/-- No date-time in the fields lies beyond the calendar. -/
def InCalendarFields : List (String × Value) → Prop
  | [] => True
  | (_, v) :: rest => v.InCalendar ∧ InCalendarFields rest

end

end Value

namespace Tagged

/-! ## Scalars -/

/-- Tags are written with two digits. -/
theorem exists_tagDigits (t : Datatype) : ∃ a b high low, Text.upperHexText 2 t.tag = [a, b] ∧
    Text.hexValue? a = some high ∧ Text.hexValue? b = some low ∧ t.tag = 16 * high + low := by
  cases t <;> exact ⟨_, _, _, _, rfl, rfl, rfl, rfl⟩

/-- The tag in front of a payload is read back. -/
theorem decodeText_tagged (t : Datatype) (payload : List Char) :
    decodeText (Text.upperHexText 2 t.tag ++ ':' :: payload) =
      decodeTag t.tag payload (Text.upperHexText 2 t.tag ++ ':' :: payload) := by
  obtain ⟨a, b, high, low, hdigits, ha, hb, htag⟩ := exists_tagDigits t
  rw [hdigits, htag]
  exact decodeText_header ha hb payload

theorem ofTag?_tag (t : Datatype) : Datatype.ofTag? t.tag = some t := by
  cases t <;> rfl

theorem decode_tagged_eq (t : Datatype) (payload : List Char) :
    decode (tagged t payload) =
      decodeTag t.tag payload (Text.upperHexText 2 t.tag ++ ':' :: payload) := by
  rw [tagged, decode, String.toList_ofList, decodeText_tagged]

theorem decode_tagged {t : Datatype} {payload : List Char} {v : Value}
    (h : decodePayload? t payload = some v) : decode (tagged t payload) = .ok v := by
  have ht : isContainer t = false := by
    cases t <;> first | rfl | exact absurd h (by simp [decodePayload?])
  rw [decode_tagged_eq, decodeTag, ofTag?_tag]
  simp only [ht, h, Bool.false_eq_true, if_false]

theorem decode_tagged_of_none {t : Datatype} {payload : List Char} (ht : isContainer t = false)
    (h : decodePayload? t payload = none) :
    decode (tagged t payload) = .error (malformed (Text.upperHexText 2 t.tag ++ ':' :: payload)) := by
  rw [decode_tagged_eq, decodeTag, ofTag?_tag]
  simp only [ht, h, Bool.false_eq_true, if_false]

theorem decode_string (s : String) :
    decode (.string (String.ofList (':' :: s.toList))) = .ok (.string s) := by
  rw [decode, String.toList_ofList, decodeText, String.ofList_toList]

theorem decode_ofInt64 (n : Int64) : decode (Json.ofInt64 n) = .ok (.bigInt n) := by
  have hlt : n.toInt < 9223372036854775808 := n.toInt_lt
  have hn : (Whole.ofInt64 n).toInt64? = some n := by
    simp [Whole.toInt64?, Whole.ofInt64, hlt, Int64.ofInt_toInt]
  rw [Json.ofInt64, decode, decodeNumber, Json.toInt64?, hn]

/-- An integer of a signed type is read back from its digits. -/
theorem readBits?_intText {bits : Nat} {n : Int} (hlow : -(Nat.pow 2 (bits - 1) : Int) ≤ n)
    (hhigh : n < Nat.pow 2 (bits - 1)) : readBits? bits (Text.intText n) = some n :=
  Text.readWithin?_intText hlow hhigh

theorem readBits?_int8 (n : Int8) : readBits? 8 (Text.intText n.toInt) = some n.toInt :=
  readBits?_intText n.le_toInt n.toInt_lt

theorem readBits?_int16 (n : Int16) : readBits? 16 (Text.intText n.toInt) = some n.toInt :=
  readBits?_intText n.le_toInt n.toInt_lt

theorem readBits?_int32 (n : Int32) : readBits? 32 (Text.intText n.toInt) = some n.toInt :=
  readBits?_intText n.le_toInt n.toInt_lt

theorem readBits?_int64 (n : Int64) : readBits? 64 (Text.intText n.toInt) = some n.toInt :=
  readBits?_intText n.le_toInt n.toInt_lt

theorem readBits?_wide {n : Int} (hlow : -9223372036854775808 ≤ n)
    (hhigh : n < 9223372036854775808) : readBits? 64 (Text.intText n) = some n :=
  readBits?_intText hlow hhigh

theorem decode_float (x : Binary32) :
    decode (tagged .float (Text.intText x.bits.toInt32.toInt)) = .ok (.float x) := by
  refine decode_tagged ?_
  rw [decodePayload?, readBits?_int32, Option.map_some, Int32.ofInt_toInt, UInt32.toUInt32_toInt32]

theorem decode_double (x : Binary64) :
    decode (tagged .double (Text.intText x.bits.toInt64.toInt)) = .ok (.double x) := by
  refine decode_tagged ?_
  rw [decodePayload?, readBits?_int64, Option.map_some, Int64.ofInt_toInt, UInt64.toUInt64_toInt64]

theorem decode_date (d : Date) : decode (tagged .date (Text.intText d.days)) = .ok (.date d) := by
  have hfirst := d.first_le
  have hlast := d.le_last
  refine decode_tagged ?_
  rw [decodePayload?, readBits?_wide (by omega) (by omega), Option.bind_some,
    Date.ofDays?_days, Option.map_some]

theorem decode_time (t : Time) :
    decode (tagged .time (Text.intText t.millis)) = .ok (.time t.onClock) := by
  have hs := t.seconds_lt
  have hn := t.nanos_lt
  have hm : t.millis = t.seconds * 1000 + t.nanos / 1000000 := by simp [Time.millis]
  refine decode_tagged ?_
  rw [decodePayload?, readBits?_wide (by omega) (by omega), Option.map_some,
    Time.ofMillis_millis]

theorem decode_datetime {d : Datetime} (h : ¬d.isBeyond) :
    decode (tagged .datetime (Text.intText d.millis)) = .ok (.datetime d.onClock) := by
  have hfirst := d.date.first_le
  have hlast := d.date.le_last
  have hs := d.time.seconds_lt
  have hn := d.time.nanos_lt
  have hm : d.millis = (d.date.days * 86400 + d.time.seconds) * 1000 + d.time.nanos / 1000000 := by
    simp [Datetime.millis]
  refine decode_tagged ?_
  rw [decodePayload?, readBits?_wide (by omega) (by omega), Option.bind_some,
    Datetime.ofMillis?_millis, if_neg h, Option.map_some]

theorem decode_uuid (u : Uuid) : decode (tagged .uuid u.text) = .ok (.uuid u) := by
  refine decode_tagged ?_
  rw [decodePayload?, Uuid.read?_text, Option.map_some]

/-! ## Containers -/

theorem map_eq_ok {α β : Type} {r : Result α} {f : α → β} {b : β} (h : r.map f = .ok b) :
    ∃ a, r = .ok a ∧ f a = b := by
  cases r with
  | error e => exact absurd h (by simp [Except.map])
  | ok a => exact ⟨a, rfl, Except.ok.inj h⟩

theorem bind_eq_ok {α β : Type} {r : Result α} {f : α → Result β} {b : β} (h : r >>= f = .ok b) :
    ∃ a, r = .ok a ∧ f a = .ok b := by
  cases r with
  | error e => exact absurd h (by simp [bind, Except.bind])
  | ok a => exact ⟨a, rfl, h⟩

/-- The JSON form is read as the value. -/
def Reads (j : Json) (v : Value) : Prop := decode j = .ok v

theorem decodeMembers_of_alike {members : List (String × Json)} {fields : List (String × Value)}
    (h : List.Forall₂ (Members.Alike Reads) members fields) :
    decodeMembers members = .ok fields := by
  induction h with
  | nil => rfl
  | @cons member field members fields hm _ ih =>
    obtain ⟨name, j⟩ := member
    obtain ⟨name', v⟩ := field
    obtain rfl : name = name' := hm.1
    have hv : decode j = .ok v := hm.2
    rw [decodeMembers, hv, ih]
    rfl

mutual

theorem decode_encode : ∀ (v : Value) {j : Json}, encode v = .ok j → v.InCalendar →
    Reads j v.normal
  | .null, _, h, _ => by
    obtain rfl := Except.ok.inj h
    rfl
  | .missing, _, h, _ => nomatch h
  | .boolean b, _, h, _ => by
    obtain rfl := Except.ok.inj h
    rfl
  | .tinyInt n, _, h, _ => by
    obtain rfl := Except.ok.inj h
    refine decode_tagged ?_
    rw [decodePayload?, readBits?_int8, Option.map_some, Int8.ofInt_toInt]
    rfl
  | .smallInt n, _, h, _ => by
    obtain rfl := Except.ok.inj h
    refine decode_tagged ?_
    rw [decodePayload?, readBits?_int16, Option.map_some, Int16.ofInt_toInt]
    rfl
  | .integer n, _, h, _ => by
    obtain rfl := Except.ok.inj h
    refine decode_tagged ?_
    rw [decodePayload?, readBits?_int32, Option.map_some, Int32.ofInt_toInt]
    rfl
  | .bigInt n, _, h, _ => by
    obtain rfl := Except.ok.inj h
    exact decode_ofInt64 n
  | .float x, _, h, _ => by
    obtain rfl := Except.ok.inj h
    exact decode_float x.canonical
  | .double x, _, h, _ => by
    obtain rfl := Except.ok.inj h
    exact decode_double x.canonical
  | .string s, _, h, _ => by
    obtain rfl := Except.ok.inj h
    exact decode_string s
  | .date d, _, h, _ => by
    obtain rfl := Except.ok.inj h
    exact decode_date d
  | .time t, _, h, _ => by
    obtain rfl := Except.ok.inj h
    exact decode_time t
  | .datetime d, _, h, hd => by
    obtain rfl := Except.ok.inj h
    exact decode_datetime hd
  | .duration _ _, _, h, _ => nomatch h
  | .yearMonthDuration n, _, h, _ => by
    obtain rfl := Except.ok.inj h
    refine decode_tagged ?_
    rw [decodePayload?, readBits?_int32, Option.map_some, Int32.ofInt_toInt]
    rfl
  | .dayTimeDuration n, _, h, _ => by
    obtain rfl := Except.ok.inj h
    refine decode_tagged ?_
    rw [decodePayload?, readBits?_int64, Option.map_some, Int64.ofInt_toInt]
    rfl
  | .uuid u, _, h, _ => by
    obtain rfl := Except.ok.inj h
    exact decode_uuid u
  | .array items, _, h, hd => by
    obtain ⟨js, hjs, rfl⟩ := map_eq_ok h
    rw [Reads, decode, decodeItems_encodeItems items hjs hd]
    rfl
  | .multiset items, _, h, hd => by
    obtain ⟨js, hjs, rfl⟩ := map_eq_ok h
    rw [Reads, decode, decodeItems_encodeItems items hjs hd]
    rfl
  | .object fields, _, h, hd => by
    obtain ⟨members, hmembers, rfl⟩ := map_eq_ok h
    -- names are put together before the members are sent, and the reader finds no repeated one
    have halike := Members.forall₂_collect (alike_encodeFields fields hmembers hd)
    rw [Members.collect_eq_latest (Value.normalFields fields)] at halike
    rw [Reads, Json.ofMembers, decode, decodeMembers_of_alike halike]
    rfl

theorem decodeItems_encodeItems : ∀ (items : List Value) {js : List Json},
    encodeItems items = .ok js → Value.InCalendarItems items →
    decodeItems js = .ok (Value.normalItems items)
  | [], _, h, _ => by
    obtain rfl := Except.ok.inj h
    rfl
  | v :: rest, _, h, hd => by
    obtain ⟨j, hj, h⟩ := bind_eq_ok h
    obtain ⟨js, hjs, h⟩ := bind_eq_ok h
    obtain rfl := Except.ok.inj h
    have hv : decode j = .ok v.normal := decode_encode v hj hd.1
    rw [decodeItems, hv, decodeItems_encodeItems rest hjs hd.2]
    rfl

theorem alike_encodeFields : ∀ (fields : List (String × Value)) {members : List (String × Json)},
    encodeFields fields = .ok members → Value.InCalendarFields fields →
    List.Forall₂ (Members.Alike Reads) members (Value.normalFields fields)
  | [], _, h, _ => by
    obtain rfl := Except.ok.inj h
    exact .nil
  | (name, v) :: rest, _, h, hd => by
    obtain ⟨j, hj, h⟩ := bind_eq_ok h
    obtain ⟨members, hmembers, h⟩ := bind_eq_ok h
    obtain rfl := Except.ok.inj h
    exact .cons ⟨rfl, decode_encode v hj hd.1⟩ (alike_encodeFields rest hmembers hd.2)

end

/-- **A value that has been sent is read back as its normal form.** -/
theorem decode_encode_value {v : Value} {j : Json} (sent : Param.encode (.value v) = .ok j)
    (inCalendar : v.InCalendar) : decode j = .ok v.normal :=
  decode_encode v sent inCalendar

/-- A leap second before the epoch. -/
def earlyLeapSecond : Datetime :=
  ⟨⟨-1, by decide, by decide⟩, ⟨86399, 1000999999, by decide, by decide⟩⟩

/-- An object that repeats a name, with a leap second before the epoch, a NaN with a payload in a
multiset and a string that looks like a tagged integer. -/
def entangled : Value :=
  .object [
    ("a", .string "03:7"),
    ("b", .multiset [.double ⟨0xfff0000000000001⟩, .object [], .null]),
    ("a", .datetime earlyLeapSecond)]

theorem decode_encode_entangled : ∃ j, Param.encode (.value entangled) = .ok j ∧
    entangled.InCalendar ∧
    decode j = .ok (.object [
      ("a", .datetime ⟨⟨0, by decide, by decide⟩, ⟨0, 0, by decide, by decide⟩⟩),
      ("b", .array [.double .canonicalNan, .object [], .null])]) := by
  have hcal : entangled.InCalendar := by
    refine ⟨trivial, ⟨trivial, trivial, trivial, trivial⟩, ?_, trivial⟩
    show ¬Datetime.isBeyond _
    decide
  exact ⟨_, rfl, hcal, decode_encode_value rfl hcal⟩

end Tagged

end QueryClient
