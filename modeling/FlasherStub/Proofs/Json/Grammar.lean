import FlasherStub.Json.Description
import Mathlib

/-!
The grammar of JSON text (RFC 8259), over the bytes of the text.

The reader of descriptions builds no tree: it reads the values it wants with scanners of their
own and passes over every other value with a stack of the containers still open. What it accepts
is therefore stated against a grammar written apart from it. Every relation here says of a list
of bytes that it is one phrase of its kind and nothing more; blank space is written out where the
grammar allows it. Bytes are written as numbers: `34` is the quote, `44` the comma, `58` the
colon, `91`/`93` the brackets, `123`/`125` the braces and `92` the backslash.

A container is described from its opening bracket on by what follows it there: blank space and
the closing bracket, or a first element and then more. After each element the rest of the
container has the same shape, with a comma before every further element; this is the shape in
which the reader meets a container, one element at a time.

A description document is an object or an array, and for it the grammar keeps more: the members
of the outermost object with the names their keys decode to, or the elements of the outermost
array, each with the text of its value. `Writes d input` says that `input` is such a document and
that it writes the addresses of `d` as integer literals, each exactly once.
-/

namespace FlasherStub.Json.Grammar

/-! ### Tokens -/

/-- A byte of blank space: a space, a tab, a line feed or a carriage return. -/
def IsBlank (b : UInt8) : Prop := b = 32 ∨ b = 9 ∨ b = 10 ∨ b = 13

/-- A decimal digit. -/
def IsDigit (b : UInt8) : Prop := 48 ≤ b ∧ b ≤ 57

/-- Blank space. -/
def Blank (w : List UInt8) : Prop := ∀ b ∈ w, IsBlank b

/-- One or more decimal digits. -/
def Digits (ds : List UInt8) : Prop := ds ≠ [] ∧ ∀ d ∈ ds, IsDigit d

/-- The digits of an integer: a lone zero, or a digit other than zero and any digits after it. -/
def IntegerDigits (ds : List UInt8) : Prop :=
  ds = [48] ∨ ∃ d rest, ds = d :: rest ∧ IsDigit d ∧ d ≠ 48 ∧ ∀ x ∈ rest, IsDigit x

/-- The natural number that decimal digits spell, the most significant first. -/
def decimal (ds : List UInt8) : ℕ := Nat.ofDigits 10 (ds.reverse.map fun d => d.toNat - 48)

/-- An integer literal and the integer it writes: an optional minus sign, then the digits of an
integer. -/
def IntLit (lit : List UInt8) (n : Int) : Prop :=
  ∃ ds, IntegerDigits ds ∧ ((lit = ds ∧ n = decimal ds) ∨ (lit = 45 :: ds ∧ n = -(decimal ds : Int)))

/-- A fraction: a point and digits. -/
def Fraction (f : List UInt8) : Prop := ∃ ds, f = 46 :: ds ∧ Digits ds

/-- An exponent: `e` or `E`, an optional sign, and digits. -/
def Exponent (e : List UInt8) : Prop :=
  ∃ c sign ds, e = c :: (sign ++ ds) ∧ (c = 101 ∨ c = 69) ∧ (sign = [] ∨ sign = [43] ∨ sign = [45]) ∧
    Digits ds

/-- A number without its sign: the digits of an integer, then an optional fraction and an
optional exponent. -/
def UnsignedNumber (s : List UInt8) : Prop :=
  ∃ i f e, s = i ++ f ++ e ∧ IntegerDigits i ∧ (f = [] ∨ Fraction f) ∧ (e = [] ∨ Exponent e)

/-- A number: an optional minus sign and a number without its sign. -/
def Number (s : List UInt8) : Prop := UnsignedNumber s ∨ ∃ u, s = 45 :: u ∧ UnsignedNumber u

/-! ### Strings -/

/-- The bytes that stand after a backslash for themselves or for a control character. -/
def simpleEscapes : List UInt8 := [34, 92, 47, 98, 102, 110, 114, 116]

/-- The byte a simple escape stands for. -/
def escapeByte : UInt8 → Option UInt8
  | 34 => some 34
  | 92 => some 92
  | 47 => some 47
  | 98 => some 8
  | 102 => some 12
  | 110 => some 10
  | 114 => some 13
  | 116 => some 9
  | _ => none

/-- The code unit written by the four hexadecimal digits of a `\u` escape. -/
def codeUnit (h₁ h₂ h₃ h₄ : UInt8) : Option ℕ := do
  let a ← hexValue h₁
  let b ← hexValue h₂
  let c ← hexValue h₃
  let d ← hexValue h₄
  pure (((a * 16 + b) * 16 + c) * 16 + d)

/-- An escape as written after its backslash: a byte that stands for itself or for a control
character, or `u` and four hexadecimal digits. -/
inductive EscapeText : List UInt8 → Prop
  | simple {c : UInt8} : c ∈ simpleEscapes → EscapeText [c]
  | unit {h₁ h₂ h₃ h₄ : UInt8} {n : ℕ} : codeUnit h₁ h₂ h₃ h₄ = some n →
      EscapeText [117, h₁, h₂, h₃, h₄]

/-- The body of a string between its quotes: bytes other than the quote, the backslash and the
control characters, and escapes. -/
inductive Chars : List UInt8 → Prop
  | nil : Chars []
  | plain {b : UInt8} {rest : List UInt8} : 32 ≤ b → b ≠ 34 → b ≠ 92 → Chars rest →
      Chars (b :: rest)
  | escape {e rest : List UInt8} : EscapeText e → Chars rest → Chars (92 :: (e ++ rest))

/-- An escape after its backslash, and the bytes it stands for in UTF-8. A `\u` escape of a
surrogate must be the first of a pair of escapes that together name one code point. -/
inductive Escape : List UInt8 → List UInt8 → Prop
  | simple {c x : UInt8} : escapeByte c = some x → Escape [c] [x]
  | unit {h₁ h₂ h₃ h₄ : UInt8} {n : ℕ} : codeUnit h₁ h₂ h₃ h₄ = some n →
      (n < 0xD800 ∨ 0xDFFF < n) → Escape [117, h₁, h₂, h₃, h₄] (utf8 n)
  | pair {h₁ h₂ h₃ h₄ l₁ l₂ l₃ l₄ : UInt8} {hi lo : ℕ} :
      codeUnit h₁ h₂ h₃ h₄ = some hi → 0xD800 ≤ hi → hi ≤ 0xDBFF →
      codeUnit l₁ l₂ l₃ l₄ = some lo → 0xDC00 ≤ lo → lo ≤ 0xDFFF →
      Escape [117, h₁, h₂, h₃, h₄, 92, 117, l₁, l₂, l₃, l₄]
        (utf8 ((hi - 0xD800) * 0x400 + (lo - 0xDC00) + 0x10000))

/-- A string body and the bytes of the text it stands for. -/
inductive Decodes : List UInt8 → List UInt8 → Prop
  | nil : Decodes [] []
  | plain {b : UInt8} {rest out : List UInt8} : 32 ≤ b → b ≠ 34 → b ≠ 92 → Decodes rest out →
      Decodes (b :: rest) (b :: out)
  | escape {e x rest out : List UInt8} : Escape e x → Decodes rest out →
      Decodes (92 :: (e ++ rest)) (x ++ out)

/-! ### Values -/

mutual

/-- A JSON value, with no blank space around it. -/
inductive Value : List UInt8 → Prop
  | null : Value [110, 117, 108, 108]
  | true : Value [116, 114, 117, 101]
  | false : Value [102, 97, 108, 115, 101]
  | number {s : List UInt8} : Number s → Value s
  | string {s : List UInt8} : Chars s → Value (34 :: (s ++ [34]))
  | array {s : List UInt8} : ArrayRest Bool.true s → Value (91 :: s)
  | object {s : List UInt8} : ObjectRest Bool.true s → Value (123 :: s)

/-- What follows the opening bracket of an array (`first`) or one of its elements, the closing
bracket included. -/
inductive ArrayRest : Bool → List UInt8 → Prop
  | close {first : Bool} {w : List UInt8} : Blank w → ArrayRest first (w ++ [93])
  | element {w v t : List UInt8} : Blank w → Value v → ArrayRest Bool.false t →
      ArrayRest Bool.true (w ++ v ++ t)
  | next {w w' v t : List UInt8} : Blank w → Blank w' → Value v → ArrayRest Bool.false t →
      ArrayRest Bool.false (w ++ 44 :: (w' ++ v ++ t))

/-- What follows the opening brace of an object (`first`) or one of its members, the closing
brace included. -/
inductive ObjectRest : Bool → List UInt8 → Prop
  | close {first : Bool} {w : List UInt8} : Blank w → ObjectRest first (w ++ [125])
  | member {m t : List UInt8} : Member m → ObjectRest Bool.false t → ObjectRest Bool.true (m ++ t)
  | next {w m t : List UInt8} : Blank w → Member m → ObjectRest Bool.false t →
      ObjectRest Bool.false (w ++ 44 :: (m ++ t))

/-- A member of an object: its key, a colon and its value, with blank space before each. -/
inductive Member : List UInt8 → Prop
  | mk {w k w₁ w₂ v : List UInt8} : Blank w → Chars k → Blank w₁ → Blank w₂ → Value v →
      Member (w ++ 34 :: (k ++ 34 :: (w₁ ++ 58 :: (w₂ ++ v))))

end

/-! ### Description documents -/

/-- A member of the outermost object written as the text `m`, whose key decodes to `name` and
whose value is written `v`. -/
def MemberText (name : String) (v m : List UInt8) : Prop :=
  ∃ w k dec w₁ w₂, m = w ++ 34 :: (k ++ 34 :: (w₁ ++ 58 :: (w₂ ++ v))) ∧ Blank w ∧
    Decodes k dec ∧ textOf dec = name ∧ Blank w₁ ∧ Blank w₂ ∧ Value v

/-- The members of the outermost object, as the names of their keys and the texts of their
values, written from the opening brace (`first`) or from a member on, up to the closing brace. -/
inductive Members : Bool → List (String × List UInt8) → List UInt8 → Prop
  | stop {first : Bool} {w : List UInt8} : Blank w → Members first [] w
  | member {name : String} {v m t : List UInt8} {ms : List (String × List UInt8)} :
      MemberText name v m → Members false ms t → Members true ((name, v) :: ms) (m ++ t)
  | next {name : String} {w v m t : List UInt8} {ms : List (String × List UInt8)} :
      Blank w → MemberText name v m → Members false ms t →
      Members false ((name, v) :: ms) (w ++ 44 :: (m ++ t))

/-- The elements of the outermost array, as the texts of their values, written from the opening
bracket (`first`) or from an element on, up to the closing bracket. -/
inductive Elements : Bool → List (List UInt8) → List UInt8 → Prop
  | stop {first : Bool} {w : List UInt8} : Blank w → Elements first [] w
  | element {w v t : List UInt8} {vs : List (List UInt8)} :
      Blank w → Value v → Elements false vs t → Elements true (v :: vs) (w ++ v ++ t)
  | next {w w' v t : List UInt8} {vs : List (List UInt8)} :
      Blank w → Blank w' → Value v → Elements false vs t →
      Elements false (v :: vs) (w ++ 44 :: (w' ++ v ++ t))

/-- A whole text that is an object with the members `ms`, blank space around it. -/
def ObjectText (ms : List (String × List UInt8)) (input : List UInt8) : Prop :=
  ∃ w₁ body w₂, input = w₁ ++ 123 :: (body ++ 125 :: w₂) ∧ Blank w₁ ∧ Members true ms body ∧
    Blank w₂

/-- A whole text that is an array with the elements `vs`, blank space around it. -/
def ArrayText (vs : List (List UInt8)) (input : List UInt8) : Prop :=
  ∃ w₁ body w₂, input = w₁ ++ 91 :: (body ++ 93 :: w₂) ∧ Blank w₁ ∧ Elements true vs body ∧
    Blank w₂

/-- The text of `null`. -/
def nullText : List UInt8 := [110, 117, 108, 108]

/-- An integer literal of a 128-bit value. -/
def Int128Lit (lit : List UInt8) (n : Int) : Prop := IntLit lit n ∧ int128Min ≤ n ∧ n ≤ int128Max

/-- The members give the key `name` exactly once, and as an integer literal of the value `n`. -/
def AddressAt (ms : List (String × List UInt8)) (name : String) (n : Int) : Prop :=
  ∃ lit, ms.filter (·.1 = name) = [(name, lit)] ∧ Int128Lit lit n

/-- The members give the optional key `name` not at all or as `null` when it has no value, and
exactly once as an integer literal of its value when it has one. -/
def OptionalAddressAt (ms : List (String × List UInt8)) (name : String) : Option Int → Prop
  | none => ms.filter (·.1 = name) = [] ∨ ms.filter (·.1 = name) = [(name, nullText)]
  | some n => AddressAt ms name n

/-- The element at `i` is an integer literal of the value `n`. -/
def AddressIn (vs : List (List UInt8)) (i : ℕ) (n : Int) : Prop :=
  ∃ lit, vs[i]? = some lit ∧ Int128Lit lit n

/-- The optional element at `i` is missing or `null` when it has no value, and an integer literal
of its value when it has one. -/
def OptionalAddressIn (vs : List (List UInt8)) (i : ℕ) : Option Int → Prop
  | none => vs[i]? = none ∨ vs[i]? = some nullText
  | some n => AddressIn vs i n

/-- `input` is a description document that writes the addresses of `d`: an object that gives
`entry` and `text_start` once each as integer literals of their values and `data_start` as
`null`, not at all or as the literal of its value; or an array with those literals at the first,
third and fifth place. -/
def Writes (d : Description) (input : List UInt8) : Prop :=
  (∃ ms, ObjectText ms input ∧ AddressAt ms "entry" d.entry ∧
    AddressAt ms "text_start" d.textStart ∧ OptionalAddressAt ms "data_start" d.dataStart) ∨
  (∃ vs, ArrayText vs input ∧ AddressIn vs 0 d.entry ∧ AddressIn vs 2 d.textStart ∧
    OptionalAddressIn vs 4 d.dataStart)

/-! ### Phrases from their parts -/

theorem blank_nil : Blank [] := fun _ hb => absurd hb List.not_mem_nil

theorem blank_append {w w' : List UInt8} (h : Blank w) (h' : Blank w') : Blank (w ++ w') := by
  intro b hb
  rcases List.mem_append.1 hb with hb | hb
  · exact h b hb
  · exact h' b hb

/-- Blank space before a member belongs to it. -/
theorem Member.blank_append {w m : List UInt8} (hw : Blank w) (hm : Member m) :
    Member (w ++ m) := by
  cases hm with
  | mk hw₀ hk hw₁ hw₂ hv =>
    rw [← List.append_assoc]
    exact Member.mk (Grammar.blank_append hw hw₀) hk hw₁ hw₂ hv

/-- An escape that is read is one as written. -/
theorem Escape.text_append {e x rest : List UInt8} (he : Escape e x) (hrest : Chars rest) :
    Chars (92 :: (e ++ rest)) := by
  cases he with
  | simple hx =>
    refine Chars.escape (EscapeText.simple ?_) hrest
    simp only [escapeByte] at hx
    split at hx <;> simp_all [simpleEscapes]
  | unit hn _ => exact Chars.escape (EscapeText.unit hn) hrest
  | pair hhi _ _ hlo _ _ =>
    -- a surrogate pair is two escapes of four digits
    have hsecond := Chars.escape (EscapeText.unit hlo) hrest
    simpa using Chars.escape (EscapeText.unit hhi) hsecond

/-- A string body that is read is one as written. -/
theorem Decodes.chars {s out : List UInt8} (h : Decodes s out) : Chars s := by
  induction h with
  | nil => exact Chars.nil
  | plain h32 hq hbs _ ih => exact Chars.plain h32 hq hbs ih
  | escape he _ ih => exact he.text_append ih

/-- An integer literal is a number. -/
theorem IntLit.number {lit : List UInt8} {n : Int} (h : IntLit lit n) : Number lit := by
  obtain ⟨ds, hds, ⟨hlit, -⟩ | ⟨hlit, -⟩⟩ := h <;> rw [hlit]
  · exact Or.inl ⟨ds, [], [], by simp, hds, Or.inl rfl, Or.inl rfl⟩
  · exact Or.inr ⟨ds, rfl, ds, [], [], by simp, hds, Or.inl rfl, Or.inl rfl⟩

theorem Int128Lit.value {lit : List UInt8} {n : Int} (h : Int128Lit lit n) : Value lit :=
  Value.number h.1.number

/-- Blank space before the closing brace belongs to the members. -/
theorem Members.append_blank {first : Bool} {ms : List (String × List UInt8)} {body w : List UInt8}
    (h : Members first ms body) (hw : Blank w) : Members first ms (body ++ w) := by
  induction h with
  | stop hw₀ => exact Members.stop (blank_append hw₀ hw)
  | member hm _ ih => simpa using Members.member hm ih
  | next hw₀ hm _ ih => simpa using Members.next hw₀ hm ih

/-- Blank space before the closing bracket belongs to the elements. -/
theorem Elements.append_blank {first : Bool} {vs : List (List UInt8)} {body w : List UInt8}
    (h : Elements first vs body) (hw : Blank w) : Elements first vs (body ++ w) := by
  induction h with
  | stop hw₀ => exact Elements.stop (blank_append hw₀ hw)
  | element hw₀ hv _ ih => simpa using Elements.element hw₀ hv ih
  | next hw₀ hw₁ hv _ ih => simpa using Elements.next hw₀ hw₁ hv ih

end FlasherStub.Json.Grammar
