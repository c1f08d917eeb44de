import FlasherStub.Field

/-!
Errors of the TOML reader. Only the first error of a document is reported; its message is the
description, followed, when the error says what would have been accepted instead, by
`, expected` and that list (`nothing` when the list is empty). A literal in the list is shown
between backticks, a line break as `newline`.
-/

namespace FlasherStub.Toml

/-- One thing that would have been accepted where an error arose. -/
inductive Expected where
  | literal (text : String)
  | description (text : String)
  deriving DecidableEq, Repr

/-- How an accepted alternative is shown. -/
def Expected.render : Expected → String
  | .literal "\n" => "newline"
  | .literal "`" => "'`'"
  | .literal t => "`" ++ t ++ "`"
  | .description t => t

/-- A refusal of a TOML document. -/
structure Error where
  description : String
  expected : Option (List Expected) := none
  deriving DecidableEq, Repr

/-- The message of an error. -/
def Error.message (e : Error) : String :=
  match e.expected with
  | none => e.description
  | some [] => e.description ++ ", expected nothing"
  | some xs => e.description ++ ", expected " ++ ", ".intercalate (xs.map Expected.render)

/-- An error that names nothing in its place. -/
def Error.plain (d : String) : Error := ⟨d, none⟩

/-- An error after which nothing would have been accepted. -/
def Error.nothing (d : String) : Error := ⟨d, some []⟩

/-- An error with the alternatives that would have been accepted. -/
def Error.expecting (d : String) (xs : List Expected) : Error := ⟨d, some xs⟩

/-- A field error of the description, reported with its own sentence. -/
def Error.ofField (e : FieldError) : Error := ⟨e.message, none⟩

end FlasherStub.Toml
