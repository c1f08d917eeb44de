/-!
The case conventions that derive names from identifiers. Lowercase folds every letter; kebab
case cuts an identifier into words and joins them, lowercased, with `-`. Words are the runs of
letters and digits, cut again where a lowercase letter is followed by an uppercase one, and
before the last capital of a run of capitals that a lowercase letter follows (`HTTPServer` is
`http-server`); a digit takes the case of the letter before it. Letters are cased as ASCII
letters: the identifiers these names come from are ASCII.
-/

namespace FlasherStub.Text

/-- The case of the letters read so far in a word: none yet, lowercase last, or uppercase last. -/
inductive WordMode where
  | boundary
  | lower
  | upper
  deriving DecidableEq, Repr

/-- The words of one run of letters and digits; `cur` is the word being read and `mode` the
case read last in it. -/
def runWords (mode : WordMode) (cur : List Char) : List Char → List (List Char)
  | [] => []
  | [c] => [cur ++ [c]]
  | c :: n :: rest =>
    let next := if c.isLower then .lower else if c.isUpper then .upper else mode
    -- a word ends after a lowercase letter that an uppercase one follows
    if next = .lower ∧ n.isUpper then (cur ++ [c]) :: runWords .boundary [] (n :: rest)
    -- and before the last capital of a run of them that a lowercase letter follows
    else if mode = .upper ∧ c.isUpper ∧ n.isLower then cur :: runWords .boundary [c] (n :: rest)
    else runWords next (cur ++ [c]) (n :: rest)

/-- The words of an identifier, in order. -/
def words (s : String) : List (List Char) :=
  (s.toList.splitOnP fun c => !c.isAlphanum).flatMap (runWords .boundary [])

/-- The identifier in kebab case: its words, lowercased, joined by `-`. -/
def kebabCase (s : String) : String :=
  "-".intercalate ((words s).map fun w => String.ofList (w.map Char.toLower))

/-- The identifier with every letter lowercased. -/
def lowercase (s : String) : String := String.ofList (s.toList.map Char.toLower)

end FlasherStub.Text
