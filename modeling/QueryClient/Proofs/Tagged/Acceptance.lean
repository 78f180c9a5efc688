import QueryClient.Proofs.Decimal.Grammar
import QueryClient.Proofs.Failure
import QueryClient.Proofs.Tagged.RoundTrip

/-!
# Which values are read

Whether a JSON value is read depends on its strings alone (`Json.strings`), and each of them has to
be a text behind a colon or a payload behind the tag of its type (`Accepted`). Every other string
has its complaint (`Refused`), and the first one in the document decides what a value fails with.
Main statement: `decode_answers`.
-/

namespace QueryClient

namespace Json

mutual

/-- The strings in a value, in the order of the document. The names of members are not among
them. -/
def strings : Json → List String
  | .string s => [s]
  | .array items => stringsOfItems items
  | .object members => stringsOfMembers members
  | _ => []

/-- The strings in the elements of an array. -/
def stringsOfItems : List Json → List String
  | [] => []
  | j :: rest => j.strings ++ stringsOfItems rest

/-- The strings in the members of an object. -/
def stringsOfMembers : List (String × Json) → List String
  | [] => []
  | (_, j) :: rest => j.strings ++ stringsOfMembers rest

end

end Json

namespace Tagged

open Text

/-! ## The grammar -/

/-- The text spells this integer, which fits a word of so many bits with a sign. -/
def WordText (bits : Nat) (n : Int) (cs : List Char) : Prop :=
  IntegerText n cs ∧ -(Nat.pow 2 (bits - 1) : Int) ≤ n ∧ n < Nat.pow 2 (bits - 1)

/-- The text spells an integer that fits a word of so many bits. -/
def IsWord (bits : Nat) (cs : List Char) : Prop := ∃ n, WordText bits n cs

/-- The payloads of a type. -/
def IsPayload : Datatype → List Char → Prop
  | .tinyInt, cs => IsWord 8 cs
  | .smallInt, cs => IsWord 16 cs
  | .integer, cs | .float, cs | .yearMonthDuration, cs => IsWord 32 cs
  | .bigInt, cs | .double, cs | .time, cs | .dayTimeDuration, cs => IsWord 64 cs
  | .string, _ | .missing, _ | .null, _ => True
  | .boolean, cs => cs = "true".toList ∨ cs = ['1'] ∨ cs = "false".toList ∨ cs = ['0']
  | .date, cs => ∃ d : Date, WordText 64 d.days cs
  | .datetime, cs => ∃ n, WordText 64 n cs ∧ ∃ d : Date, d.days = n / millisPerDay
  | .duration, cs => ∃ months millis, cs = months ++ ':' :: millis ∧ IsWord 32 months ∧ IsWord 64 millis
  | .uuid, cs => ∃ u, Uuid.read? cs = some u
  | .array, _ | .multiset, _ | .object, _ | .any, _ => False

/-- The text is a tag in two hexadecimal digits of either case, a colon and the payload. -/
inductive HeadedText : Nat → List Char → List Char → Prop
  | of {a b high low payload} : hexValue? a = some high → hexValue? b = some low →
      HeadedText (16 * high + low) payload (a :: b :: ':' :: payload)

/-- The text stands for a value. -/
inductive Accepted : List Char → Prop
  | plain (rest) : Accepted (':' :: rest)
  | tagged {t payload text} : HeadedText t.tag payload text → IsPayload t payload → Accepted text

/-- The text stands for no value, and this is what is said about it. -/
inductive Refused (text : List Char) : String → Prop
  | unheaded : (∀ rest, text ≠ ':' :: rest) → (∀ tag payload, ¬HeadedText tag payload text) →
      Refused text ("malformed tagged value '" ++ String.ofList text ++ "'")
  | unknown {tag payload} : HeadedText tag payload text → (∀ t : Datatype, t.tag ≠ tag) →
      Refused text ("unrecognized type tag 0x" ++ String.ofList (upperHexText 2 tag))
  | container {t payload} : HeadedText t.tag payload text → isContainer t = true →
      Refused text ("container type " ++ t.typeName ++ " cannot be carried in text form")
  | malformed {t payload} : HeadedText t.tag payload text → isContainer t = false →
      ¬IsPayload t payload → Refused text ("malformed tagged value '" ++ String.ofList text ++ "'")

/-! ## Payloads read -/

theorem readBits?_eq_some_iff {bits : Nat} {n : Int} {cs : List Char} :
    readBits? bits cs = some n ↔ WordText bits n cs := Decimal.readWithin?_eq_some_iff

/-- A payload that is a word and nothing else. -/
theorem exists_word_iff {bits : Nat} {cs : List Char} {f : Int → Value} :
    (∃ v, (readBits? bits cs).map f = some v) ↔ IsWord bits cs := by
  simp only [Option.map_eq_some_iff, readBits?_eq_some_iff]
  exact ⟨fun ⟨_, n, hn, _⟩ => ⟨n, hn⟩, fun ⟨n, hn⟩ => ⟨f n, n, hn, rfl⟩⟩

theorem exists_boolean_iff {cs : List Char} :
    (∃ v, decodePayload? .boolean cs = some v) ↔ IsPayload .boolean cs := by
  simp only [decodePayload?, IsPayload]
  split
  · next h => exact ⟨fun _ => h.imp_right .inl, fun _ => ⟨_, rfl⟩⟩
  · next htrue =>
    split
    · next h => exact ⟨fun _ => .inr (.inr h), fun _ => ⟨_, rfl⟩⟩
    · next hfalse =>
      refine ⟨fun ⟨_, h⟩ => (nomatch h), fun h => ?_⟩
      rw [← or_assoc] at h
      exact absurd h (not_or.mpr ⟨htrue, hfalse⟩)

theorem ofDays?_eq_some_iff {n : Int} {d : Date} : Date.ofDays? n = some d ↔ d.days = n := by
  constructor
  · intro h
    unfold Date.ofDays? at h
    split at h
    · cases h
      rfl
    · cases h
  · rintro rfl
    exact Date.ofDays?_days d

theorem exists_date_iff {cs : List Char} :
    (∃ v, decodePayload? .date cs = some v) ↔ IsPayload .date cs := by
  simp only [decodePayload?, Option.map_eq_some_iff, Option.bind_eq_some_iff,
    readBits?_eq_some_iff, ofDays?_eq_some_iff]
  constructor
  · rintro ⟨_, d, ⟨n, hn, rfl⟩, -⟩
    exact ⟨d, hn⟩
  · rintro ⟨d, hn⟩
    exact ⟨_, d, ⟨_, hn, rfl⟩, rfl⟩

theorem exists_datetime_iff {cs : List Char} :
    (∃ v, decodePayload? .datetime cs = some v) ↔ IsPayload .datetime cs := by
  simp only [decodePayload?, Option.map_eq_some_iff, Option.bind_eq_some_iff,
    readBits?_eq_some_iff, Datetime.ofMillis?_eq, ofDays?_eq_some_iff]
  constructor
  · rintro ⟨_, _, ⟨n, hn, d, hd, -⟩, -⟩
    exact ⟨n, hn, d, hd⟩
  · rintro ⟨n, hn, d, hd⟩
    exact ⟨_, _, ⟨n, hn, d, hd, rfl⟩, rfl⟩

/-- No colon stands in an integer. -/
theorem colon_not_mem {n : Int} {cs : List Char} (h : IntegerText n cs) : ':' ∉ cs := by
  obtain ⟨signs, digits, -⟩ := h
  have hdigits := digits.not_mem (show isDigit ':' = false from rfl)
  cases signs with
  | none => exact hdigits
  | plus | minus => exact List.not_mem_cons_of_ne_of_not_mem (by decide) hdigits

theorem exists_duration_iff {cs : List Char} :
    (∃ v, decodePayload? .duration cs = some v) ↔ IsPayload .duration cs := by
  have hread (v : Value) : decodePayload? .duration cs = some v ↔
      ∃ months millis, splitOnce ':' cs = some (months, millis) ∧ ∃ m, readBits? 32 months = some m ∧
        ∃ t, readBits? 64 millis = some t ∧ .duration (Int32.ofInt m) (Int64.ofInt t) = v := by
    simp [decodePayload?, Option.bind_eq_some_iff]
  simp only [hread, splitOnce_eq_some_iff, readBits?_eq_some_iff]
  constructor
  · rintro ⟨_, months, millis, ⟨rfl, -⟩, m, hm, t, ht, -⟩
    exact ⟨months, millis, rfl, ⟨m, hm⟩, ⟨t, ht⟩⟩
  · rintro ⟨months, millis, rfl, ⟨m, hm⟩, ⟨t, ht⟩⟩
    exact ⟨_, months, millis, ⟨rfl, colon_not_mem hm.1⟩, m, hm, t, ht, rfl⟩

/-- A payload is read if and only if it is one of its type. -/
theorem exists_payload_iff {t : Datatype} {cs : List Char} :
    (∃ v, decodePayload? t cs = some v) ↔ IsPayload t cs := by
  cases t with
  | tinyInt | smallInt | integer | bigInt | float | double | time | yearMonthDuration
  | dayTimeDuration => exact exists_word_iff
  | string | missing | null => exact ⟨fun _ => trivial, fun _ => ⟨_, rfl⟩⟩
  | boolean => exact exists_boolean_iff
  | datetime => exact exists_datetime_iff
  | date => exact exists_date_iff
  | duration => exact exists_duration_iff
  | uuid =>
    simp only [decodePayload?, Option.map_eq_some_iff]
    exact ⟨fun ⟨_, u, hu, _⟩ => ⟨u, hu⟩, fun ⟨u, hu⟩ => ⟨.uuid u, u, hu, rfl⟩⟩
  | array | multiset | object | any => exact ⟨fun ⟨_, h⟩ => (nomatch h), False.elim⟩

/-! ## Texts read -/

theorem isHeaded_iff_headedText {text : List Char} :
    isHeaded text = true ↔ ∃ tag payload, HeadedText tag payload text := by
  rw [isHeaded_iff]
  constructor
  · rintro ⟨a, b, high, low, payload, rfl, ha, hb⟩
    exact ⟨_, payload, .of ha hb⟩
  · rintro ⟨tag, payload, ⟨ha, hb⟩⟩
    exact ⟨_, _, _, _, payload, rfl, ha, hb⟩

theorem HeadedText.decodeText_eq {tag : Nat} {payload text : List Char}
    (h : HeadedText tag payload text) : decodeText text = decodeTag tag payload text := by
  obtain ⟨ha, hb⟩ := h
  exact decodeText_header ha hb payload

theorem ofTag?_eq_none {tag : Nat} (h : ∀ t : Datatype, t.tag ≠ tag) :
    Datatype.ofTag? tag = none := by
  refine List.find?_eq_none.mpr fun t _ => ?_
  rw [beq_iff_eq]
  exact h t

theorem decodeText_of_accepted {text : List Char} (h : Accepted text) :
    ∃ v, decodeText text = .ok v := by
  cases h with
  | plain rest => exact ⟨_, rfl⟩
  | @tagged t payload _ headed hpayload =>
    obtain ⟨v, hv⟩ := exists_payload_iff.mpr hpayload
    have ht : isContainer t = false := by
      cases t <;> first | rfl | exact hpayload.elim
    refine ⟨v, ?_⟩
    rw [headed.decodeText_eq, decodeTag, ofTag?_tag]
    simp only [ht, hv, Bool.false_eq_true, if_false]

theorem decodeText_of_refused {text : List Char} {message : String} (h : Refused text message) :
    decodeText text = .error (.protocol message) := by
  cases h with
  | unheaded hcolon hheaded =>
    refine decodeText_of_not_isHeaded hcolon fun h => ?_
    obtain ⟨tag, payload, headed⟩ := isHeaded_iff_headedText.mp h
    exact hheaded tag payload headed
  | unknown headed hunknown => rw [headed.decodeText_eq, decodeTag, ofTag?_eq_none hunknown]
  | container headed ht =>
    rw [headed.decodeText_eq, decodeTag, ofTag?_tag]
    simp only [ht, if_true]
  | malformed headed ht hpayload =>
    have hnone : decodePayload? _ _ = none :=
      Option.eq_none_iff_forall_ne_some.mpr fun v hv => hpayload (exists_payload_iff.mp ⟨v, hv⟩)
    rw [headed.decodeText_eq, decodeTag, ofTag?_tag]
    simp only [ht, hnone, Bool.false_eq_true, if_false]
    rfl

theorem accepted_or_refused (text : List Char) : Accepted text ∨ ∃ message, Refused text message := by
  by_cases hcolon : ∃ rest, text = ':' :: rest
  · obtain ⟨rest, rfl⟩ := hcolon
    exact .inl (.plain rest)
  · by_cases hheaded : ∃ tag payload, HeadedText tag payload text
    · obtain ⟨tag, payload, headed⟩ := hheaded
      by_cases htag : ∃ t : Datatype, t.tag = tag
      · obtain ⟨t, rfl⟩ := htag
        by_cases hpayload : IsPayload t payload
        · exact .inl (.tagged headed hpayload)
        · cases ht : isContainer t with
          | true => exact .inr ⟨_, .container headed ht⟩
          | false => exact .inr ⟨_, .malformed headed ht hpayload⟩
      · exact .inr ⟨_, .unknown headed fun t ht => htag ⟨t, ht⟩⟩
    · exact .inr ⟨_, .unheaded (fun rest h => hcolon ⟨rest, h⟩)
        fun tag payload headed => hheaded ⟨tag, payload, headed⟩⟩

/-- The failure of a string. -/
def stringFailure? (s : String) : Option ClientError := errorOf? (decodeText s.toList)

theorem stringFailure?_eq_none_iff {s : String} : stringFailure? s = none ↔ Accepted s.toList := by
  rw [stringFailure?, errorOf?_eq_none_iff]
  refine ⟨fun ⟨v, hv⟩ => ?_, decodeText_of_accepted⟩
  obtain h | ⟨message, h⟩ := accepted_or_refused s.toList
  · exact h
  · exact absurd (hv.symm.trans (decodeText_of_refused h)) (by simp)

theorem exists_refused {s : String} (h : ¬Accepted s.toList) :
    ∃ message, Refused s.toList message ∧ stringFailure? s = some (.protocol message) := by
  obtain ⟨message, hrefused⟩ := (accepted_or_refused s.toList).resolve_left h
  exact ⟨message, hrefused, errorOf?_eq_some_iff.mpr (decodeText_of_refused hrefused)⟩

/-! ## Values read -/

/-- Every JSON number is an integer of 64 bits or a double. -/
theorem errorOf?_decodeNumber_int (n : Whole) : errorOf? (decodeNumber (.int n)) = none := by
  rw [decodeNumber]
  cases (Json.int n).toInt64? with
  | some m => rfl
  | none => rfl

mutual

/-- What is read first fails first, and nothing but a string fails. -/
theorem errorOf?_decode : ∀ j : Json, errorOf? (decode j) = j.strings.findSome? stringFailure?
  | .null => rfl
  | .bool _ => rfl
  | .int n => errorOf?_decodeNumber_int n
  | .double _ => rfl
  | .string s => by
    rw [Json.strings, List.findSome?_singleton]
    rfl
  | .array items => by
    rw [decode, errorOf?_map, Json.strings]
    exact errorOf?_decodeItems items
  | .object members => by
    rw [decode, errorOf?_map, Json.strings]
    exact errorOf?_decodeMembers members

theorem errorOf?_decodeItems : ∀ items : List Json,
    errorOf? (decodeItems items) = (Json.stringsOfItems items).findSome? stringFailure?
  | [] => rfl
  | j :: rest => by
    rw [decodeItems, errorOf?_bind fun v => errorOf?_bind_pure (decodeItems rest) (v :: ·),
      errorOf?_decode j, errorOf?_decodeItems rest, Json.stringsOfItems, List.findSome?_append]

theorem errorOf?_decodeMembers : ∀ members : List (String × Json),
    errorOf? (decodeMembers members) = (Json.stringsOfMembers members).findSome? stringFailure?
  | [] => rfl
  | (name, j) :: rest => by
    rw [decodeMembers,
      errorOf?_bind fun v => errorOf?_bind_pure (decodeMembers rest) ((name, v) :: ·),
      errorOf?_decode j, errorOf?_decodeMembers rest, Json.stringsOfMembers, List.findSome?_append]

end

theorem exists_decode_iff (j : Json) :
    (∃ v, decode j = .ok v) ↔ ∀ s ∈ j.strings, Accepted s.toList := by
  rw [← errorOf?_eq_none_iff, errorOf?_decode, List.findSome?_eq_none_iff]
  simp only [stringFailure?_eq_none_iff]

theorem decode_of_first {j : Json} {before after : List String} {s : String}
    (hj : j.strings = before ++ s :: after) (hbefore : ∀ r ∈ before, Accepted r.toList)
    (hs : ¬Accepted s.toList) :
    ∃ message, Refused s.toList message ∧ decode j = .error (.protocol message) := by
  obtain ⟨message, hrefused, hfailure⟩ := exists_refused hs
  refine ⟨message, hrefused, errorOf?_eq_some_iff.mp ?_⟩
  rw [errorOf?_decode]
  exact List.findSome?_eq_some_iff.mpr
    ⟨before, s, after, hj, hfailure, fun r hr => stringFailure?_eq_none_iff.mpr (hbefore r hr)⟩

theorem exists_refused_of_error {j : Json} {e : ClientError} (h : decode j = .error e) :
    ∃ text message, Refused text message ∧ e = .protocol message := by
  rw [← errorOf?_eq_some_iff, errorOf?_decode] at h
  obtain ⟨before, s, after, -, hs, -⟩ := List.findSome?_eq_some_iff.mp h
  have hbad : ¬Accepted s.toList := fun hok => by
    rw [stringFailure?_eq_none_iff.mpr hok] at hs
    cases hs
  obtain ⟨message, hrefused, hfailure⟩ := exists_refused hbad
  exact ⟨s.toList, message, hrefused, (Option.some.inj (hfailure.symm.trans hs)).symm⟩

/-- None of the complaints is about a number. -/
theorem Refused.ne_outOfRange {text : List Char} {message : String} (h : Refused text message)
    (number : String) : message ≠ "number out of range: " ++ number := by
  intro heq
  have hfirst : message.toList.head? = some 'n' := by
    rw [heq, String.toList_append]
    rfl
  cases h <;> simp [String.toList_append] at hfirst

/-- A value is read if and only if each of its strings stands for a value, and the first one that
does not decides what it fails with. On the way a text with a header falls into the digits of the
tag, the colon and the payload at the byte offsets 2 and 3, whatever the characters behind them, and
no number is ever out of range. -/
theorem decode_answers (j : Json) :
    ((∃ v, decode j = .ok v) ↔ ∀ s ∈ j.strings, Accepted s.toList) ∧
    (∀ before s after, j.strings = before ++ s :: after → (∀ r ∈ before, Accepted r.toList) →
      ¬Accepted s.toList →
      ∃ message, Refused s.toList message ∧ decode j = .error (.protocol message)) ∧
    (∀ text (headed : isHeaded text = true),
      Utf8.IsBoundary text 2 ∧ Utf8.IsBoundary text 3 ∧
      text = tagDigits text headed ++ ':' :: payload text headed ∧
      (Utf8.encode (tagDigits text headed)).length = 2) ∧
    ∀ number, decode j ≠ .error (.protocol ("number out of range: " ++ number)) := by
  refine ⟨exists_decode_iff j, fun before s after => decode_of_first, fun text headed => ?_,
    fun number h => ?_⟩
  · refine ⟨isBoundary_two headed, isBoundary_three headed, ?_⟩
    obtain ⟨a, b, high, low, rest, rfl, ha, hb⟩ := isHeaded_iff.mp headed
    rw [tagDigits_cons ha hb, payload_cons ha hb]
    exact ⟨rfl, length_encode_digits ha hb⟩
  · obtain ⟨text, message, hrefused, heq⟩ := exists_refused_of_error h
    exact hrefused.ne_outOfRange number (ClientError.protocol.inj heq).symm

/-- The name of a member is no string of the document, and what comes behind the first bad string
does not matter. The third byte of that one is a colon, but its first two are one letter. -/
example :
    decode (.object [("7F:", .array [.string ":7F", .string "0b:+0"]),
        ("n", .array [.string "ß:1", .string "16:"])]) =
      .error (.protocol "malformed tagged value 'ß:1'") := rfl

end Tagged

end QueryClient
