import FlasherStub.Text.Base64
import FlasherStub.Proofs.Except
import Mathlib

/-!
Canonical base64. The decoder refuses every text that is not the padded encoding of the bytes it
carries, so decoding and encoding are inverse to each other: `decode_eq_ok_iff` says that a text
decodes to `bs` exactly when it is `encode bs`. Every byte string thus has one text, and every
text at most one byte string.

The proofs follow the decoder. Whole groups of four symbols carry three bytes each
(`decodeQuads`); the final group of four (`scanTail`) holds two to four symbols and then only
padding, and the low bits of its last symbol that carry no byte are zero. Each half of the
round trip is proved group by group: a group of bytes and its symbols determine each other by
arithmetic on their 24-bit value.
-/

namespace FlasherStub.Base64

open FlasherStub.Except

/-! ### The alphabet -/

/-- Every six-bit value is read back from its symbol. -/
theorem symbolValue?_symbol : ∀ v, v < 64 → symbolValue? (symbol v) = some v := by
  decide

set_option maxRecDepth 2000 in
/-- The table of the alphabet, checked byte by byte. -/
private theorem alphabet_table : ∀ b : UInt8, ∀ v ∈ symbolValue? b, v < 64 ∧ symbol v = b := by
  decide

/-- A byte of the alphabet is the symbol of its six-bit value. -/
theorem symbol_of_symbolValue? {b : UInt8} {v : Nat} (h : symbolValue? b = some v) :
    v < 64 ∧ symbol v = b :=
  alphabet_table b v h

theorem symbolValue?_pad : symbolValue? pad = none := by
  decide

theorem symbol_ne_pad {v : Nat} (hv : v < 64) : symbol v ≠ pad := by
  intro h
  have hread := symbolValue?_symbol v hv
  rw [h, symbolValue?_pad] at hread
  cases hread

/-! ### Encoding group by group -/

@[simp] theorem encode_nil : encode [] = [] := by
  simp [encode]

theorem length_encode (t : List UInt8) : (encode t).length = 4 * ((t.length + 2) / 3) := by
  fun_induction encode t with
  | case1 a b c rest _ ih => simp only [List.length_cons, ih]; omega
  | case2 a b => simp
  | case3 a => simp
  | case4 => rfl

/-- Encoding works on groups of three bytes, so a whole number of groups is encoded on its
own. -/
theorem encode_append {u : List UInt8} (hu : u.length % 3 = 0) (w : List UInt8) :
    encode (u ++ w) = encode u ++ encode w := by
  fun_induction encode u with
  | case1 a b c rest _ ih =>
    simp only [List.cons_append, encode, List.cons.injEq]
    exact ⟨rfl, rfl, rfl, rfl, ih (by simp only [List.length_cons] at hu; omega)⟩
  | case2 a b => simp at hu
  | case3 a => simp at hu
  | case4 => simp

theorem length_groupBytes (vs : List Nat) : (groupBytes vs).length = vs.length * 6 / 8 := by
  simp [groupBytes]

/-- The three bytes of a 24-bit value, read back from their places in it. -/
private theorem recombine {n : Nat} (hn : n < 16777216) :
    n / 65536 % 256 % 256 * 65536 + n / 256 % 256 % 256 * 256 + n % 256 % 256 = n := by
  omega

/-- A byte is determined by its value below 256. -/
private theorem ofNat_eq_of_toNat {a : UInt8} {n : Nat} (h : n % 256 = a.toNat) :
    UInt8.ofNat n = a := by
  apply UInt8.toNat_inj.mp
  simpa [UInt8.toNat_ofNat'] using h

/-- Four symbols carry the three bytes of their 24-bit value, and those bytes are encoded as
the same four symbols. -/
theorem encode_groupBytes_four {va vb vc vd : Nat} (ha : va < 64) (hb : vb < 64) (hc : vc < 64)
    (hd : vd < 64) (rest : List UInt8) :
    encode (groupBytes [va, vb, vc, vd] ++ rest) =
      symbol va :: symbol vb :: symbol vc :: symbol vd :: encode rest := by
  simp only [groupBytes, List.foldl, List.length, List.range_succ, List.range_zero, Nat.pow_eq,
    List.nil_append, List.map_cons, List.map_nil, List.cons_append, Nat.reduceMul, Nat.reduceAdd,
    Nat.reduceDiv, Nat.reduceSub, Nat.reducePow, Nat.div_one, encode, UInt8.toNat_ofNat']
  have hbits : (((0 + va) * 64 + vb) * 64 + vc) * 64 + vd =
      va * 262144 + vb * 4096 + vc * 64 + vd := by ring
  rw [hbits, recombine (by omega)]
  simp only [List.cons.injEq, and_true]
  refine ⟨?_, ?_, ?_, ?_⟩ <;> congr 1 <;> omega

/-- Three symbols whose last four bits are zero carry two bytes, encoded as those symbols and
one pad. -/
theorem encode_groupBytes_three {va vb vc : Nat} (ha : va < 64) (hb : vb < 64) (hc : vc < 64)
    (hbits : trailingBits [va, vb, vc] = 0) :
    encode (groupBytes [va, vb, vc]) = [symbol va, symbol vb, symbol vc, pad] := by
  simp only [trailingBits, List.foldl, List.length, Nat.pow_eq, Nat.reduceMul] at hbits
  simp only [groupBytes, List.foldl, List.length, List.range_succ, List.range_zero, Nat.pow_eq,
    List.nil_append, List.map_cons, List.map_nil, List.cons_append, Nat.reduceMul, Nat.reduceAdd,
    Nat.reduceDiv, Nat.reduceSub, Nat.reducePow, Nat.div_one, encode, UInt8.toNat_ofNat']
  simp only [List.cons.injEq, and_true]
  refine ⟨?_, ?_, ?_⟩ <;> congr 1 <;> omega

/-- Two symbols whose last two bits are zero carry one byte, encoded as those symbols and two
pads. -/
theorem encode_groupBytes_two {va vb : Nat} (ha : va < 64) (hb : vb < 64)
    (hbits : trailingBits [va, vb] = 0) :
    encode (groupBytes [va, vb]) = [symbol va, symbol vb, pad, pad] := by
  simp only [trailingBits, List.foldl, List.length, Nat.pow_eq, Nat.reduceMul] at hbits
  simp only [groupBytes, List.foldl, List.length, List.range_succ, List.range_zero, Nat.pow_eq,
    List.nil_append, List.map_cons, List.map_nil, Nat.reduceMul, Nat.reduceAdd, Nat.reduceDiv,
    Nat.reduceSub, Nat.reducePow, Nat.div_one, encode, UInt8.toNat_ofNat']
  simp only [List.cons.injEq, and_true]
  refine ⟨?_, ?_⟩ <;> congr 1 <;> omega

/-- The final group of a text, two to four symbols with no stray low bits, is the encoding of
the bytes it carries followed by the padding that completes it to four. -/
theorem encode_groupBytes {vs : List Nat} (hv : ∀ v ∈ vs, v < 64)
    (hlen : 2 ≤ vs.length ∧ vs.length ≤ 4) (hbits : trailingBits vs = 0) :
    encode (groupBytes vs) = vs.map symbol ++ List.replicate (4 - vs.length) pad := by
  match vs, hv, hlen, hbits with
  | [va, vb], hv, _, hbits =>
    simpa using encode_groupBytes_two (hv va (by simp)) (hv vb (by simp)) hbits
  | [va, vb, vc], hv, _, hbits =>
    simpa using encode_groupBytes_three (hv va (by simp)) (hv vb (by simp)) (hv vc (by simp)) hbits
  | [va, vb, vc, vd], hv, _, _ =>
    simpa using encode_groupBytes_four (hv va (by simp)) (hv vb (by simp)) (hv vc (by simp))
      (hv vd (by simp)) []

/-- The four six-bit values that `encode` writes for three bytes carry those bytes. -/
theorem groupBytes_sextets (a b c : UInt8) :
    groupBytes [(a.toNat * 65536 + b.toNat * 256 + c.toNat) / 262144,
      (a.toNat * 65536 + b.toNat * 256 + c.toNat) / 4096 % 64,
      (a.toNat * 65536 + b.toNat * 256 + c.toNat) / 64 % 64,
      (a.toNat * 65536 + b.toNat * 256 + c.toNat) % 64] = [a, b, c] := by
  have ha := a.toNat_lt
  have hb := b.toNat_lt
  have hc := c.toNat_lt
  simp only [groupBytes, List.foldl, List.length, List.range_succ, List.range_zero, Nat.pow_eq,
    List.nil_append, List.map_cons, List.map_nil, List.cons_append, Nat.reduceMul, Nat.reduceAdd,
    Nat.reduceDiv, Nat.reduceSub, Nat.reducePow, Nat.div_one, List.cons.injEq, and_true]
  exact ⟨ofNat_eq_of_toNat (by omega), ofNat_eq_of_toNat (by omega), ofNat_eq_of_toNat (by omega)⟩

/-- The six-bit values of the last group that `encode` writes for one to three bytes: symbols
for them, then padding, with no stray low bits, carrying exactly those bytes. -/
theorem encode_last_group {w : List UInt8} (hw : 1 ≤ w.length ∧ w.length ≤ 3) :
    ∃ vs : List Nat, encode w = vs.map symbol ++ List.replicate (4 - vs.length) pad ∧
      2 ≤ vs.length ∧ (∀ v ∈ vs, v < 64) ∧ trailingBits vs = 0 ∧ groupBytes vs = w := by
  match w, hw with
  | [a], _ =>
    have ha := a.toNat_lt
    refine ⟨[a.toNat * 65536 / 262144, a.toNat * 65536 / 4096 % 64], ?_, by simp, ?_, ?_, ?_⟩
    · simp [encode]
    · simp only [List.mem_cons, List.not_mem_nil, or_false]
      rintro v (rfl | rfl) <;> omega
    · simp only [trailingBits, List.foldl, List.length, Nat.pow_eq, Nat.reduceMul]
      omega
    · simp only [groupBytes, List.foldl, List.length, List.range_succ, List.range_zero,
        Nat.pow_eq, List.nil_append, List.map_cons, List.map_nil, Nat.reduceMul, Nat.reduceAdd,
        Nat.reduceDiv, Nat.reduceSub, Nat.reducePow, Nat.div_one, List.cons.injEq, and_true]
      exact ofNat_eq_of_toNat (by omega)
  | [a, b], _ =>
    have ha := a.toNat_lt
    have hb := b.toNat_lt
    refine ⟨[(a.toNat * 65536 + b.toNat * 256) / 262144,
      (a.toNat * 65536 + b.toNat * 256) / 4096 % 64, (a.toNat * 65536 + b.toNat * 256) / 64 % 64],
      ?_, by simp, ?_, ?_, ?_⟩
    · simp [encode]
    · simp only [List.mem_cons, List.not_mem_nil, or_false]
      rintro v (rfl | rfl | rfl) <;> omega
    · simp only [trailingBits, List.foldl, List.length, Nat.pow_eq, Nat.reduceMul]
      omega
    · simp only [groupBytes, List.foldl, List.length, List.range_succ, List.range_zero,
        Nat.pow_eq, List.nil_append, List.map_cons, List.map_nil, List.cons_append,
        Nat.reduceMul, Nat.reduceAdd, Nat.reduceDiv, Nat.reduceSub, Nat.reducePow, Nat.div_one,
        List.cons.injEq, and_true]
      exact ⟨ofNat_eq_of_toNat (by omega), ofNat_eq_of_toNat (by omega)⟩
  | [a, b, c], _ =>
    have ha := a.toNat_lt
    have hb := b.toNat_lt
    have hc := c.toNat_lt
    refine ⟨[(a.toNat * 65536 + b.toNat * 256 + c.toNat) / 262144,
      (a.toNat * 65536 + b.toNat * 256 + c.toNat) / 4096 % 64,
      (a.toNat * 65536 + b.toNat * 256 + c.toNat) / 64 % 64,
      (a.toNat * 65536 + b.toNat * 256 + c.toNat) % 64], ?_, by simp, ?_, ?_,
      groupBytes_sextets a b c⟩
    · simp [encode]
    · simp only [List.mem_cons, List.not_mem_nil, or_false]
      rintro v (rfl | rfl | rfl | rfl) <;> omega
    · simp [trailingBits, Nat.mod_one]

/-! ### Whole groups -/

/-- Reading one symbol of a group: its value, or the refusal of the byte. -/
theorem elim_eq_ok {o : Option Nat} {e : DecodeError} {v : Nat} :
    o.elim (.error e) .ok = (.ok v : Except DecodeError Nat) ↔ o = some v := by
  cases o <;> simp

/-- The encoding of whole groups of bytes is read back by the reader of whole groups. -/
theorem decodeQuads_encode (start : Nat) {u : List UInt8} (hu : u.length % 3 = 0) :
    decodeQuads start (encode u) = .ok u := by
  induction u using encode.induct generalizing start with
  | case1 a b c rest ih =>
    have ha := a.toNat_lt
    have hb := b.toNat_lt
    have hc := c.toNat_lt
    have hrest : rest.length % 3 = 0 := by
      simp only [List.length_cons] at hu
      omega
    simp (disch := omega) only [encode, decodeQuads, symbolValue?_symbol, Option.elim_some,
      ok_bind, ih (start + 4) hrest, pure_eq_ok, groupBytes_sextets, List.cons_append,
      List.nil_append]
  | case2 a b => simp at hu
  | case3 a => simp at hu
  | case4 => simp [decodeQuads]

/-- Whole groups of symbols that the reader accepts are the encoding of the bytes it returns. -/
theorem eq_encode_of_decodeQuads {start : Nat} {q out : List UInt8}
    (h : decodeQuads start q = .ok out) (hq : q.length % 4 = 0) :
    q = encode out ∧ out.length % 3 = 0 := by
  induction start, q using decodeQuads.induct generalizing out with
  | case1 start a b c d rest ih =>
    simp only [decodeQuads, bind_eq_ok_iff, elim_eq_ok, pure_eq_ok, Except.ok.injEq] at h
    obtain ⟨va, hva, vb, hvb, vc, hvc, vd, hvd, tail, htail, rfl⟩ := h
    obtain ⟨ha64, rfl⟩ := symbol_of_symbolValue? hva
    obtain ⟨hb64, rfl⟩ := symbol_of_symbolValue? hvb
    obtain ⟨hc64, rfl⟩ := symbol_of_symbolValue? hvc
    obtain ⟨hd64, rfl⟩ := symbol_of_symbolValue? hvd
    obtain ⟨rfl, htail3⟩ := ih htail (by simp only [List.length_cons] at hq; omega)
    refine ⟨(encode_groupBytes_four ha64 hb64 hc64 hd64 tail).symm, ?_⟩
    simp only [List.length_append, length_groupBytes, List.length_cons, List.length_nil]
    omega
  | case2 t start hshort =>
    -- fewer than four bytes are left, and a whole number of groups leaves none
    have ht : t = [] := by
      rcases t with _ | ⟨a, _ | ⟨b, _ | ⟨c, _ | ⟨d, rest⟩⟩⟩⟩
      · rfl
      · simp at hq
      · simp at hq
      · simp at hq
      · exact (hshort a b c d rest rfl).elim
    subst ht
    simp only [decodeQuads, Except.ok.injEq] at h
    subst h
    simp

/-! ### The final group -/

/-- What a successful scan of the final group has read: symbols and then only padding, with
no padding before the third position. -/
theorem scanTail_eq_ok {start i : Nat} {r : List UInt8} {t t' : Tail}
    (h : scanTail start i r t = .ok t') :
    ∃ vs k, r = vs.map symbol ++ List.replicate k pad ∧ t'.values = t.values ++ vs ∧
      t'.pads = t.pads + k ∧ (∀ v ∈ vs, v < 64) ∧ (0 < t.pads → vs = []) ∧
      (0 < k → 2 ≤ i + vs.length) := by
  induction i, r, t using scanTail.induct with
  | case1 i t =>
    simp only [scanTail, Except.ok.injEq] at h
    subst h
    exact ⟨[], 0, by simp⟩
  | case2 i r t hi =>
    simp [scanTail, hi] at h
  | case3 i r t hi ih =>
    rw [scanTail, if_pos rfl, if_neg hi] at h
    obtain ⟨vs, k, rfl, hvals, hpads, hv, hafter, -⟩ := ih h
    -- after a pad only pads may follow
    obtain rfl := hafter (Nat.succ_pos _)
    refine ⟨[], k + 1, by simp [List.replicate_succ], by simpa using hvals, ?_, by simp,
      fun _ => rfl, fun _ => by simp only [List.length_nil]; omega⟩
    simp only at hpads
    omega
  | case4 i b r t hb hp =>
    simp [scanTail, hb, hp] at h
  | case5 i b r t hb hp hv =>
    simp [scanTail, hb, hp, hv] at h
  | case6 i b r t hb hp v hv ih =>
    rw [scanTail, if_neg hb, if_neg hp, hv] at h
    obtain ⟨vs, k, rfl, hvals, hpads, hvs, -, hk⟩ := ih h
    obtain ⟨hv64, rfl⟩ := symbol_of_symbolValue? hv
    refine ⟨v :: vs, k, rfl, by simpa using hvals, hpads, ?_, fun h => absurd h hp, ?_⟩
    · simpa [hv64] using hvs
    · intro hk0
      have := hk hk0
      simp only [List.length_cons]
      omega

/-- Padding from the third position on is scanned to the end. -/
theorem scanTail_pads (start i k : Nat) (t : Tail) (hi : 0 < k → 2 ≤ i) :
    ∃ t', scanTail start i (List.replicate k pad) t = .ok t' ∧ t'.values = t.values ∧
      t'.pads = t.pads + k := by
  induction k generalizing i t with
  | zero => exact ⟨t, by simp [scanTail], rfl, rfl⟩
  | succ k ih =>
    obtain ⟨t', h, hvals, hpads⟩ := ih (i + 1)
      { t with pads := t.pads + 1, firstPad := if t.pads = 0 then i else t.firstPad }
      (fun _ => by omega)
    refine ⟨t', ?_, hvals, ?_⟩
    · rw [List.replicate_succ, scanTail, if_pos rfl, if_neg (by omega)]
      exact h
    · simp only at hpads
      omega

/-- Symbols followed by padding from the third position on are scanned to the end. -/
theorem scanTail_symbols_pads (start i : Nat) (vs : List Nat) (k : Nat) (t : Tail)
    (hv : ∀ v ∈ vs, v < 64) (hpads : t.pads = 0) (hk : 0 < k → 2 ≤ i + vs.length) :
    ∃ t', scanTail start i (vs.map symbol ++ List.replicate k pad) t = .ok t' ∧
      t'.values = t.values ++ vs ∧ t'.pads = k := by
  induction vs generalizing i t with
  | nil =>
    obtain ⟨t', h, hvals, hp⟩ := scanTail_pads start i k t (by simpa using hk)
    exact ⟨t', h, by simpa using hvals, by omega⟩
  | cons v vs ih =>
    have hv64 : v < 64 := hv v (by simp)
    obtain ⟨t', h, hvals, hp⟩ := ih (i + 1) { t with values := t.values ++ [v], last := symbol v }
      (fun w hw => hv w (by simp [hw])) hpads (fun hk0 => by have := hk hk0; simp at this; omega)
    refine ⟨t', ?_, by simpa using hvals, hp⟩
    rw [List.map_cons, List.cons_append, scanTail, if_neg (symbol_ne_pad hv64),
      if_neg (by omega), symbolValue?_symbol v hv64]
    exact h

/-! ### Decoding -/

/-- The length of the whole groups that `decode` reads before the final group. -/
def bodyLength (len : Nat) : Nat := len - len % 4 - if len % 4 = 0 then 4 else 0

theorem ite_error_eq_ok {ε α : Type} {c : Prop} [Decidable c] {e : ε} {k : Except ε α} {a : α} :
    (if c then .error e else k) = .ok a ↔ ¬c ∧ k = .ok a := by
  by_cases hc : c <;> simp [hc]

/-- `decode` succeeds exactly when a last byte left over is padding or a symbol, the whole
groups are read, the final group is scanned, and the final group has two symbols or more, fills
four places with its padding, and has no stray low bits. -/
theorem decode_eq_ok_iff_checks {input out : List UInt8} :
    decode input = .ok out ↔
      ¬(input.length % 4 = 1 ∧ ∃ b, input.getLast? = some b ∧ b ≠ pad ∧ symbolValue? b = none) ∧
      ∃ body, decodeQuads 0 (input.take (bodyLength input.length)) = .ok body ∧
        ∃ tl, scanTail (bodyLength input.length) 0 (input.drop (bodyLength input.length))
          ⟨[], 0, 0, 0⟩ = .ok tl ∧
        (input ≠ [] → 2 ≤ tl.values.length) ∧ (tl.pads + tl.values.length) % 4 = 0 ∧
        trailingBits tl.values = 0 ∧ body ++ groupBytes tl.values = out := by
  unfold decode bodyLength
  dsimp only
  by_cases hrem : input.length % 4 = 1
  · rw [if_pos hrem]
    -- a byte left over after the whole groups is refused at once unless it is padding or a symbol
    cases hlast : input.getLast? with
    | none =>
      simp only [bind_eq_ok_iff, throw_eq_error, error_bind, ite_error_eq_ok, pure_eq_ok,
        Except.ok.injEq, ne_eq, not_and, not_not, not_lt, hrem, true_and, reduceCtorEq,
        false_and, exists_false, not_false_eq_true, ↓reduceIte]
    | some b =>
      by_cases hb : b ≠ pad ∧ symbolValue? b = none
      · simp [hrem, hb.1, hb.2]
      · simp only [bind_eq_ok_iff, throw_eq_error, error_bind, ite_error_eq_ok, pure_eq_ok,
          Except.ok.injEq, ne_eq, not_and, not_not, not_lt, hb, hrem, true_and,
          Option.some.injEq, exists_eq_left', ↓reduceIte, not_false_eq_true]
  · simp only [hrem, ↓reduceIte, bind_eq_ok_iff, throw_eq_error, error_bind, ite_error_eq_ok,
      pure_eq_ok, Except.ok.injEq, ne_eq, not_and, not_not, not_lt, false_and,
      not_false_eq_true, true_and]

/-- Encoded bytes decode to themselves. -/
theorem decode_encode (t : List UInt8) : decode (encode t) = .ok t := by
  by_cases hne : t = []
  · subst hne
    rfl
  -- split off the last group of one to three bytes
  have hlen : 0 < t.length := List.length_pos_iff.mpr hne
  set q := (t.length - 1) / 3 with hq
  have hu : (t.take (3 * q)).length = 3 * q := List.length_take_of_le (by omega)
  have hw : 1 ≤ (t.drop (3 * q)).length ∧ (t.drop (3 * q)).length ≤ 3 := by
    simp only [List.length_drop]
    omega
  obtain ⟨vs, hvs, hvs2, hv, hbits, hgroup⟩ := encode_last_group hw
  have hsplit : encode t = encode (t.take (3 * q)) ++ encode (t.drop (3 * q)) := by
    rw [← encode_append (by omega), List.take_append_drop]
  have hbody : (encode (t.take (3 * q))).length = 4 * q := by
    rw [length_encode, hu]
    omega
  have hvs4 : vs.length ≤ 4 := by
    have := congrArg List.length hvs
    simp only [length_encode, List.length_append, List.length_map, List.length_replicate] at this
    omega
  have htotal : (encode t).length = 4 * q + 4 := by
    rw [length_encode]
    omega
  have hbl : bodyLength (encode t).length = 4 * q := by
    rw [htotal, bodyLength, if_pos (by omega)]
    omega
  obtain ⟨tl, hscan, hvals, hpads⟩ := scanTail_symbols_pads (4 * q) 0 vs (4 - vs.length)
    ⟨[], 0, 0, 0⟩ hv rfl (fun _ => by omega)
  refine decode_eq_ok_iff_checks.mpr ⟨by omega, t.take (3 * q), ?_, tl, ?_, ?_, ?_, ?_, ?_⟩
  · rw [hbl, hsplit, List.take_left' hbody]
    exact decodeQuads_encode 0 (by omega)
  · rw [hbl, hsplit, List.drop_left' hbody, hvs]
    exact hscan
  · intro _
    simpa [hvals] using hvs2
  · simp only [hvals, hpads, List.nil_append]
    omega
  · simpa [hvals] using hbits
  · simp only [hvals, List.nil_append, hgroup, List.take_append_drop]

/-- A text that decodes is the encoding of the bytes it decodes to. -/
theorem eq_encode_of_decode_eq_ok {input out : List UInt8} (h : decode input = .ok out) :
    input = encode out := by
  obtain ⟨-, body, hq, tl, hs, hlen, hpad, hbits, rfl⟩ := decode_eq_ok_iff_checks.mp h
  have hn4 : bodyLength input.length % 4 = 0 := by
    simp only [bodyLength]
    split <;> omega
  have hnle : bodyLength input.length ≤ input.length := by
    simp only [bodyLength]
    omega
  obtain ⟨hbody, hbody3⟩ := eq_encode_of_decodeQuads hq (by simp; omega)
  obtain ⟨vs, k, hr, hvals, hpads, hv, -, -⟩ := scanTail_eq_ok hs
  simp only [List.nil_append, Nat.zero_add] at hvals hpads
  rw [hvals] at hlen hpad hbits ⊢
  rw [hpads] at hpad
  -- the final group is four places long, or the text is empty
  have hdrop := congrArg List.length hr
  simp only [List.length_drop, List.length_append, List.length_map, List.length_replicate] at hdrop
  have hgroup : vs.map symbol ++ List.replicate k pad = encode (groupBytes vs) := by
    by_cases hnil : input = []
    · subst hnil
      have hvs : vs = [] := List.eq_nil_of_length_eq_zero (by simp at hdrop; omega)
      subst hvs
      have hk : k = 0 := by simp at hdrop; omega
      simp [hk, groupBytes]
    · have hlen := hlen hnil
      have hk : vs.length ≤ 4 ∧ k = 4 - vs.length := by
        have hpos : 0 < input.length := List.length_pos_iff.mpr hnil
        simp only [bodyLength] at hdrop
        split at hdrop <;> omega
      rw [encode_groupBytes hv ⟨hlen, hk.1⟩ hbits, hk.2]
  calc input = input.take (bodyLength input.length) ++ input.drop (bodyLength input.length) :=
        (List.take_append_drop _ _).symm
    _ = encode body ++ encode (groupBytes vs) := by rw [← hbody, hr, hgroup]
    _ = encode (body ++ groupBytes vs) := (encode_append hbody3 _).symm

/-- Distinct byte strings have distinct encodings. -/
theorem encode_injective : Function.Injective encode := by
  intro s t h
  have hs := decode_encode s
  rw [h, decode_encode t] at hs
  exact (Except.ok.inj hs).symm

/-- A text decodes to `bs` exactly when it is the encoding of `bs`. -/
theorem decode_eq_ok_iff {input bs : List UInt8} : decode input = .ok bs ↔ input = encode bs :=
  ⟨eq_encode_of_decode_eq_ok, fun h => h ▸ decode_encode bs⟩

end FlasherStub.Base64
