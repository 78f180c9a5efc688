import QueryClient.Text.Utf8
import QueryClient.Url.Domain.Label
import QueryClient.Url.Percent

/-!
# Domain names

A domain name is compared and sent in ASCII. `Domain.read?` gives the name that a text spells:
percent encodings are decoded, characters replaced by what they stand for, the whole composed, and
the labels between the full stops read one by one. A name with characters written from right to
left has to go in one direction in each of its labels.
-/

namespace QueryClient.Url.Domain

/-- What the characters of a text stand for, all together. -/
def spelled? (cs : List Char) : Option (List Char) :=
  (cs.mapM meaning?).map fun meanings => Unicode.normalize meanings.flatten

/-- The name with the given labels. -/
def ofLabels? (labels : List Label) : Option (List Char) :=
  if labels.any Label.hasRightToLeft && !labels.all Label.isDirected then none
  else some (['.'].intercalate (labels.map Label.text))

/-- The name that a text spells, in ASCII. -/
def read? (cs : List Char) : Option (List Char) := do
  let decoded ← Text.Utf8.decode? (decode (Text.Utf8.encode cs))
  let labels ← ((← spelled? decoded).splitOn '.').mapM Label.read?
  ofLabels? labels

end QueryClient.Url.Domain
