import QueryClient.Stream.Scan

/-!
# The elements of an array, one at a time

`ElementStream.locate` goes to the array stored under a name in the object that an input holds, and
`ElementStream.next` reads the array's elements one after the other; only the element at hand is
kept. `ElementStream.nextItem` is the cautious variant for loops: after a failure it stays at the
end.
-/

namespace QueryClient

/-- Where a stream stands in its array. -/
inductive ElementStream.Position where
  /-- Before the first element. -/
  | first
  /-- After an element. -/
  | rest
  /-- Past the closing bracket. -/
  | done
  deriving DecidableEq

/-- The elements of an array that are still to be read. -/
structure ElementStream where
  input : Input
  policy : TransientPolicy
  position : ElementStream.Position

namespace ElementStream

open Scan

/-! ### Finding the array -/

/-- Step into the array at which the input stands. -/
def enterArray (field : String) : Scan Unit := fun policy i =>
  match peek policy i with
  | .error e j => .error e j
  | .ok b j =>
    if b = some Ascii.openBracket then .ok () j.consume
    else .error (.protocol ("'" ++ field ++ "' is not an array")) j

/-- Step through the members of an object, past other members, into the array of the first member
with the wanted name. Commas are stepped over wherever a member may start. -/
def seekField (field : String) (policy : TransientPolicy) (i : Input) :
    EStateM.Result ClientError Input Unit :=
  match hs : skipBlanks policy i with
  | .error e j => .error e j
  | .ok () j =>
    have hj : j.size ≤ i.size := by simpa [hs, left] using size_left_skipBlanks policy i
    match hp : peek policy j with
    | .error e k => .error e k
    | .ok b k =>
      if b = some Ascii.closeBrace then
        .error (.protocol ("'" ++ field ++ "' not found in response")) k
      else if hb : b = some Ascii.comma then
        have := size_of_peek (hb ▸ hp)
        seekField field policy k.consume
      else
        have hk : k.size = j.size := by simpa [hp, left] using size_left_peek policy j
        match hn : fieldName policy k with
        | .error e l => .error e l
        | .ok name l =>
          have hl := size_of_fieldName hn
          match hc : colon policy l with
          | .error e m => .error e m
          | .ok () m =>
            have hm : m.size ≤ l.size := by simpa [hc, left] using size_left_colon policy l
            if name = field then enterArray field policy m
            else
              match hv : value policy m with
              | .error e n => .error e n
              | .ok _ n =>
                have : n.size ≤ m.size := by simpa [hv, left] using size_left_value policy m
                seekField field policy n
termination_by i.size

/-- The elements of the array stored under `field` in the object that an input holds. The input is
returned with a failure, too. -/
def locate (field : String) (policy : TransientPolicy) (i : Input) :
    EStateM.Result ClientError Input ElementStream :=
  match skipBlanks policy i with
  | .error e j => .error e j
  | .ok () j =>
    match expect Ascii.openBrace policy j with
    | .error e k => .error e k
    | .ok () k =>
      match seekField field policy k with
      | .error e l => .error e l
      | .ok () l => .ok ⟨l, policy, .first⟩ l

/-! ### Reading elements -/

/-- The bytes of the next element with its comma; nothing at the end of the array. -/
def nextText (position : Position) : Scan (Option (List UInt8)) := fun policy i =>
  match skipBlanks policy i with
  | .error e j => .error e j
  | .ok () j =>
    match peek policy j with
    | .error e k => .error e k
    | .ok b k =>
      if b = some Ascii.closeBracket then .ok none k.consume
      else
        let start : EStateM.Result ClientError Input Unit :=
          if position = .rest then
            match expect Ascii.comma policy k with
            | .error e l => .error e l
            | .ok () l => skipBlanks policy l
          else .ok () k
        match start with
        | .error e l => .error e l
        | .ok () l =>
          match value policy l with
          | .error e m => .error e m
          | .ok bytes m => .ok (some bytes) m

/-- Read the next element; nothing once the array has ended. An element that is no JSON text is
stepped over. -/
def next (s : ElementStream) : Result (Option Json) × ElementStream :=
  if s.position = .done then (.ok none, s)
  else
    match nextText s.position s.policy s.input with
    | .error e i => (.error e, { s with input := i })
    | .ok none i => (.ok none, { s with input := i, position := .done })
    | .ok (some bytes) i =>
      let after : ElementStream := { s with input := i, position := .rest }
      match Json.read? bytes with
      | some j => (.ok (some j), after)
      | none => (.error (.protocol "malformed result row"), after)

/-- Whether the end of the array has been reached. -/
def isDone (s : ElementStream) : Bool := s.position = .done

/-- Read the next element and treat a failure as the end. -/
def nextItem (s : ElementStream) : Result (Option Json) × ElementStream :=
  match s.next with
  | (.ok item, after) => (.ok item, after)
  | (.error e, after) => (.error e, { after with position := .done })

end ElementStream

end QueryClient
