import EventPipeline.Python.JsonLoads
import EventPipeline.Python.Codec

/-!
# EventPipeline.Python.JsonRoundTrip

What `json.dumps` prints, `json.loads` reads back.

Everything is about `JsonLoads.run`. For each piece of printed text there is one
lemma saying which state the machine is in after it, whatever text follows: after
the text of a value in mode `value` the machine is in the state `complete v k`. The
mutual induction at the end follows the printer.
-/

namespace EventPipeline.Python

namespace JsonLoads

variable {cfg : Config}

theorem run_cons {st st' : State} {c : CodePoint} (h : step cfg st c = .ok st') (cs : PyStr) :
    run cfg st (c :: cs) = run cfg st' cs := by
  rw [run, h]

@[simp] theorem is_ofChar (a b : Char) : is a (CodePoint.ofChar b) = decide (b = a) := by
  rw [Bool.eq_iff_iff, is, beq_iff_eq, decide_eq_true_eq]
  exact ⟨fun h => CodePoint.ofChar_injective h, fun h => h ▸ rfl⟩

/-! ### Strings -/

theorem hexVal_hexChar {d : Nat} (h : d < 16) : hexVal (Json.hexChar d) = some d := by
  have key : ∀ d : Fin 16, hexVal (Json.hexChar d.val) = some d.val := by decide
  exact key ⟨d, h⟩

/-- A printed UTF-16 unit is pushed: the escape is read digit by digit, and the digits are those
of the unit to the base 16. -/
theorem run_escapeUnit {u : Nat} (hu : u < 0x10000) (s : StrState) (hs : s.escape = .none)
    (k : List Frame) (rest : PyStr) :
    run cfg ⟨.string s, k⟩ (Json.escapeUnit u ++ rest) =
      run cfg ⟨.string (s.pushUnit u), k⟩ rest := by
  obtain ⟨rev, pending, escape⟩ := s
  obtain rfl : escape = .none := hs
  -- `\u` and four digits: the first three are collected, the fourth ends the unit
  have hback : step cfg ⟨.string ⟨rev, pending, .none⟩, k⟩ (CodePoint.ofChar '\\') =
      .ok ⟨.string ⟨rev, pending, .backslash⟩, k⟩ := by
    simp [step, stepString]
  have hu' : step cfg ⟨.string ⟨rev, pending, .backslash⟩, k⟩ (CodePoint.ofChar 'u') =
      .ok ⟨.string ⟨rev, pending, .hex 0 0⟩, k⟩ := by
    simp [step, stepString]
  have hdigit : ∀ n v d, n ≠ 3 → d < 16 →
      step cfg ⟨.string ⟨rev, pending, .hex n v⟩, k⟩ (Json.hexChar d) =
        .ok ⟨.string ⟨rev, pending, .hex (n + 1) (v * 16 + d)⟩, k⟩ := by
    intro n v d hn hd
    simp [step, stepString, hexVal_hexChar hd, hn]
  have hlast : ∀ v d, d < 16 →
      step cfg ⟨.string ⟨rev, pending, .hex 3 v⟩, k⟩ (Json.hexChar d) =
        .ok ⟨.string (StrState.pushUnit ⟨rev, pending, .hex 3 v⟩ (v * 16 + d)), k⟩ := by
    intro v d hd
    simp [step, stepString, hexVal_hexChar hd]
  -- the digits are those of the unit to the base 16
  have hval : (((0 * 16 + u / 4096 % 16) * 16 + u / 256 % 16) * 16 + u / 16 % 16) * 16 + u % 16
      = u := by omega
  simp only [Json.escapeUnit, List.cons_append, List.nil_append]
  rw [run_cons hback, run_cons hu',
    run_cons (hdigit 0 _ _ (by norm_num) (Nat.mod_lt _ (by norm_num))),
    run_cons (hdigit 1 _ _ (by norm_num) (Nat.mod_lt _ (by norm_num))),
    run_cons (hdigit 2 _ _ (by norm_num) (Nat.mod_lt _ (by norm_num))),
    run_cons (hlast _ _ (Nat.mod_lt _ (by norm_num))), hval]
  rfl

/-- A plain unit is pushed as itself. -/
theorem pushUnit_plain {c : CodePoint} (hc : c.isSurrogate = false) (rev : PyStr) :
    StrState.pushUnit ⟨rev, false, .none⟩ c.val = ⟨c :: rev, false, .none⟩ := by
  have hhigh : (decide (0xd800 ≤ c.val) && decide (c.val ≤ 0xdbff)) = false := by
    simp only [CodePoint.isSurrogate, Bool.and_eq_false_iff, decide_eq_false_iff_not] at hc ⊢
    omega
  cases rev <;> simp [StrState.pushUnit, hhigh]

theorem pushUnit_high {u : Nat} (h : 0xd800 ≤ u ∧ u ≤ 0xdbff) (rev : PyStr) :
    StrState.pushUnit ⟨rev, false, .none⟩ u = ⟨Fin.ofNat _ u :: rev, true, .none⟩ := by
  cases rev <;> simp [StrState.pushUnit, h.1, h.2]

theorem pushUnit_low {u : Nat} (h : 0xdc00 ≤ u ∧ u ≤ 0xdfff) (high : CodePoint) (rev : PyStr) :
    StrState.pushUnit ⟨high :: rev, true, .none⟩ u =
      ⟨Fin.ofNat _ (0x10000 + (high.val - 0xd800) * 0x400 + (u - 0xdc00)) :: rev, false,
        .none⟩ := by
  unfold StrState.pushUnit
  exact if_pos ⟨rfl, h⟩

/-- The two halves of a printed pair are joined. -/
theorem pushUnit_pair {c : CodePoint} (hc : 0x10000 ≤ c.val) (rev : PyStr) :
    (StrState.pushUnit ⟨rev, false, .none⟩ (0xd800 + (c.val - 0x10000) / 0x400)).pushUnit
      (0xdc00 + (c.val - 0x10000) % 0x400) = ⟨c :: rev, false, .none⟩ := by
  have hlt : c.val < 0x110000 := c.isLt
  obtain ⟨v, hv⟩ : ∃ v, v = c.val - 0x10000 := ⟨_, rfl⟩
  have hval : (Fin.ofNat 0x110000 (0xd800 + v / 0x400) : CodePoint).val = 0xd800 + v / 0x400 :=
    Nat.mod_eq_of_lt (by omega)
  have hjoin : 0x10000 + (0xd800 + v / 0x400 - 0xd800) * 0x400 + (0xdc00 + v % 0x400 - 0xdc00) =
      c.val := by omega
  have hcast : (Fin.ofNat 0x110000 c.val : CodePoint) = c := Fin.ext (Nat.mod_eq_of_lt hlt)
  rw [← hv, pushUnit_high (by omega), pushUnit_low (by omega), hval, hjoin, hcast]

theorem is_eq_false {ch : Char} {c : CodePoint} (h : c.val ≠ ch.toNat) : is ch c = false := by
  rw [is, beq_eq_false_iff_ne]
  rintro rfl
  exact h rfl

/-- A printed code point is read back. It is printed as itself, as an escape with a letter of its
own, as one unit or as a pair of units. -/
theorem run_escape {c : CodePoint} (hc : c.isSurrogate = false) (ensureAscii : Bool)
    (rev : PyStr) (k : List Frame) (rest : PyStr) :
    run cfg ⟨.string ⟨rev, false, .none⟩, k⟩ (Json.escape ensureAscii c ++ rest) =
      run cfg ⟨.string ⟨c :: rev, false, .none⟩, k⟩ rest := by
  have hback : step cfg ⟨.string ⟨rev, false, .none⟩, k⟩ (CodePoint.ofChar '\\') =
      .ok ⟨.string ⟨rev, false, .backslash⟩, k⟩ := by
    simp [step, stepString]
  -- the escapes with a letter of their own
  have hsimple : ∀ (ch : Char) (e : CodePoint), is 'u' (CodePoint.ofChar ch) = false →
      simpleEscape (CodePoint.ofChar ch) = some e → c.val = e.val →
      run cfg ⟨.string ⟨rev, false, .none⟩, k⟩ (Json.escapeChar ch ++ rest) =
        run cfg ⟨.string ⟨c :: rev, false, .none⟩, k⟩ rest := by
    intro ch e hu he hce
    obtain rfl : c = e := Fin.ext hce
    simp only [Json.escapeChar, List.cons_append, List.nil_append]
    rw [run_cons hback]
    refine run_cons ?_ rest
    simp [step, stepString, hu, he]
  unfold Json.escape
  split_ifs with h₁ h₂ h₃ h₄ h₅ h₆ h₇ h₈ h₉ h₁₀
  · exact hsimple '"' 0x22 (by decide) (by decide) h₁
  · exact hsimple '\\' 0x5c (by decide) (by decide) h₂
  · exact hsimple 'n' 0x0a (by decide) (by decide) h₃
  · exact hsimple 'r' 0x0d (by decide) (by decide) h₄
  · exact hsimple 't' 0x09 (by decide) (by decide) h₅
  · exact hsimple 'f' 0x0c (by decide) (by decide) h₆
  · exact hsimple 'b' 0x08 (by decide) (by decide) h₇
  · rw [run_escapeUnit (by omega) _ rfl, pushUnit_plain hc]
  · rw [run_escapeUnit (by omega) _ rfl, pushUnit_plain hc]
  · -- beyond the basic plane: a pair of surrogates, which is put together again
    have hlt : c.val < 0x110000 := c.isLt
    dsimp only
    rw [List.append_assoc, run_escapeUnit (by omega) _ rfl, run_escapeUnit (by omega),
      pushUnit_pair (by omega)]
    cases rev <;> simp [StrState.pushUnit]
  · refine run_cons ?_ rest
    have hq : is '"' c = false := is_eq_false h₁
    have hb : is '\\' c = false := is_eq_false h₂
    have hge : ¬c.val < 32 := by omega
    simp [step, stepString, hq, hb, hge]

/-- The inside of a printed string, and its closing quote. -/
theorem run_chars {s : PyStr} (hs : s.hasSurrogate = false) (ensureAscii : Bool) (rev : PyStr)
    (k : List Frame) (rest : PyStr) :
    run cfg ⟨.string ⟨rev, false, .none⟩, k⟩
        (s.flatMap (Json.escape ensureAscii) ++ CodePoint.ofChar '"' :: rest) =
      run cfg (completeString (rev.reverse ++ s) k) rest := by
  induction s generalizing rev with
  | nil =>
      refine (run_cons ?_ rest).trans (by rw [List.append_nil])
      simp [step, stepString]
  | cons c s ih =>
      simp only [PyStr.hasSurrogate, List.any_cons, Bool.or_eq_false_iff] at hs ih
      rw [List.flatMap_cons, List.append_assoc, run_escape hs.1, ih hs.2]
      simp

/-- A printed string, from the state its opening quote leads to. -/
theorem run_renderStr {s : PyStr} (hs : s.hasSurrogate = false) {st : State} {k : List Frame}
    (hst : step cfg st (CodePoint.ofChar '"') = .ok ⟨.string ⟨[], false, .none⟩, k⟩)
    (style : Json.DumpStyle) (rest : PyStr) :
    run cfg st (Json.renderStr style s ++ rest) = run cfg (completeString s k) rest := by
  have hquote : PyStr.ofString "\"" = [CodePoint.ofChar '"'] := rfl
  rw [Json.renderStr, hquote, List.append_assoc, List.append_assoc, List.singleton_append,
    run_cons hst, List.singleton_append]
  exact run_chars hs style.ensureAscii [] k rest

/-! ### Numbers

A number ends where its text is followed by something that is no part of a number. Digits are read
one by one into the part of the literal they belong to. -/

/-- What may follow a printed value: nothing, a separator or a closing bracket. -/
def Delimited (rest : PyStr) : Prop :=
  rest = [] ∨ ∃ c cs, rest = c :: cs ∧ (is ',' c || is ']' c || is '}' c) = true

/-- Nothing but white space. -/
def Blank (s : PyStr) : Prop := ∀ c ∈ s, isSpace c = true

/-- The separators of the style are a comma and a colon, with white space after them. -/
structure Readable (style : Json.DumpStyle) : Prop where
  itemSep : ∃ blank, style.itemSep = CodePoint.ofChar ',' :: blank ∧ Blank blank
  keySep : ∃ blank, style.keySep = CodePoint.ofChar ':' :: blank ∧ Blank blank

theorem readable_wire : Readable .wire :=
  ⟨⟨[CodePoint.ofChar ' '], rfl, by simp [Blank, isSpace, CodePoint.ofChar]⟩,
    ⟨[CodePoint.ofChar ' '], rfl, by simp [Blank, isSpace, CodePoint.ofChar]⟩⟩

theorem delimited_itemSep {style : Json.DumpStyle} (hstyle : Readable style) (rest : PyStr) :
    Delimited (style.itemSep ++ rest) := by
  obtain ⟨blank, hsep, -⟩ := hstyle.itemSep
  rw [hsep]
  exact Or.inr ⟨CodePoint.ofChar ',', blank ++ rest, rfl, by decide⟩

theorem delimited_cons {ch : Char} {cs : PyStr}
    (h : (is ',' (CodePoint.ofChar ch) || is ']' (CodePoint.ofChar ch)
      || is '}' (CodePoint.ofChar ch)) = true) : Delimited (CodePoint.ofChar ch :: cs) :=
  Or.inr ⟨_, cs, rfl, h⟩

/-- A complete number is finished by whatever may follow a value. -/
theorem run_number {phase : NumPhase} {l : FloatLexeme} {v : Json} {rest : PyStr}
    (hphase : phase.complete = true) (hv : numberValue l = .ok v) (hrest : Delimited rest)
    (k : List Frame) :
    run cfg ⟨.number phase l, k⟩ rest = run cfg (complete v k) rest := by
  have hfinish : finishNumber phase l k = .ok (complete v k) := by
    cases phase <;> simp_all [finishNumber, NumPhase.complete]
  rcases hrest with rfl | ⟨c, cs, rfl, hc⟩
  · rw [run, run]
    rcases k with _ | ⟨_ | _ | _, k⟩ <;> simp [finish, hfinish, complete]
  · have hstop : stepNumber phase l c = none := by
      have hval : c.val = 44 ∨ c.val = 93 ∨ c.val = 125 := by
        simp only [is, Bool.or_eq_true, beq_iff_eq] at hc
        rcases hc with (rfl | rfl) | rfl <;> decide
      have hdigit : c.isDigit = false := by
        simp only [CodePoint.isDigit, Bool.and_eq_false_iff, decide_eq_false_iff_not]
        omega
      have hne : ∀ ch : Char, ch.toNat ≠ 44 → ch.toNat ≠ 93 → ch.toNat ≠ 125 → is ch c = false :=
        fun ch h₁ h₂ h₃ => is_eq_false (by omega)
      have hdot := hne '.' (by decide) (by decide) (by decide)
      have he := hne 'e' (by decide) (by decide) (by decide)
      have hE := hne 'E' (by decide) (by decide) (by decide)
      cases phase <;> simp_all [stepNumber, NumPhase.complete]
    have hstep : step cfg ⟨.number phase l, k⟩ c = stepAfter (complete v k) c := by
      cases phase <;> simp_all [step, NumPhase.complete]
    have hafter : step cfg (complete v k) c = stepAfter (complete v k) c := by
      rcases k with _ | ⟨_ | _ | _, k⟩ <;> simp [step, complete]
    rw [run, run, hstep, hafter]

/-- Digits are appended one after the other, whichever part of the literal they belong to: `add`
says where they go. -/
theorem run_digits {phase : NumPhase} {l : FloatLexeme} (add : FloatLexeme → PyStr → FloatLexeme)
    (hnil : add l [] = l)
    (hstep : ∀ ds c, c.isDigit = true →
      stepNumber phase (add l ds) c = some (phase, add l (ds ++ [c])))
    {ds : PyStr} (hds : ∀ c ∈ ds, c.isDigit = true) (k : List Frame) (rest : PyStr) :
    run cfg ⟨.number phase l, k⟩ (ds ++ rest) = run cfg ⟨.number phase (add l ds), k⟩ rest := by
  have go : ∀ ds done : PyStr, (∀ c ∈ ds, c.isDigit = true) →
      run cfg ⟨.number phase (add l done), k⟩ (ds ++ rest) =
        run cfg ⟨.number phase (add l (done ++ ds)), k⟩ rest := by
    intro ds
    induction ds with
    | nil => intro done _; simp
    | cons c ds ih =>
        intro done h
        have hc := hstep done c (h c (by simp))
        have hstep' : step cfg ⟨.number phase (add l done), k⟩ c =
            .ok ⟨.number phase (add l (done ++ [c])), k⟩ := by simp [step, hc]
        rw [List.cons_append, run_cons hstep', ih _ fun d hd => h d (by simp [hd])]
        simp
  have := go ds [] hds
  rwa [hnil, List.nil_append] at this

/-- A digit that may start a number with more digits. -/
theorem digit_ne {c d : CodePoint} (h : c.val ≠ d.val) : c ≠ d := fun he => h (congrArg _ he)

/-- An integer part: a zero alone, or digits that do not start with one. -/
def IntPart (ds : PyStr) : Prop :=
  (∀ c ∈ ds, c.isDigit = true) ∧
    (ds = [digitChar 0] ∨ ∃ c rest, ds = c :: rest ∧ c ≠ digitChar 0)

theorem intPart_natStr (n : Nat) : IntPart (natStr n) := by
  refine ⟨fun c hc => natStr_isDigit hc, ?_⟩
  by_cases hn : n = 0
  · subst hn
    exact Or.inl rfl
  · obtain ⟨d, rest, hstr, hd, hd10, -⟩ := natStr_head hn
    refine Or.inr ⟨_, rest, hstr, digit_ne ?_⟩
    rw [digitChar_val hd10, digitChar_val (by norm_num)]
    omega

/-- An integer part, from the state its first digit leads to. -/
theorem run_intPart {st : State} {neg : Bool} {ds : PyStr} (hds : IntPart ds) (k : List Frame)
    (hst : ∀ c, c.isDigit = true →
      step cfg st c = .ok ⟨.number .int ⟨neg, [c], none, none⟩, k⟩) (rest : PyStr) :
    run cfg st (ds ++ rest) = run cfg ⟨.number .int ⟨neg, ds, none, none⟩, k⟩ rest := by
  obtain ⟨hdigits, rfl | ⟨c, ds', rfl, hc⟩⟩ := hds
  · exact run_cons (hst _ (hdigits _ (by simp))) rest
  · rw [List.cons_append, run_cons (hst c (hdigits c (by simp)))]
    refine run_digits (fun l ds => { l with int := l.int ++ ds }) (by simp) ?_
      (fun d hd => hdigits d (by simp [hd])) k rest
    intro ds d hd
    have hne : c :: ds ≠ [digitChar 0] := fun h => hc (List.cons.inj h).1
    simp [stepNumber, hd, hne]

theorem step_value_minus (k : List Frame) :
    step cfg ⟨.value, k⟩ (CodePoint.ofChar '-') =
      .ok ⟨.number .minus ⟨true, [], none, none⟩, k⟩ := by
  have hspace : isSpace (CodePoint.ofChar '-') = false := by decide
  simp [step, stepValue, hspace]

theorem step_value_digit {c : CodePoint} (hc : c.isDigit = true) (k : List Frame) :
    step cfg ⟨.value, k⟩ c = .ok ⟨.number .int ⟨false, [c], none, none⟩, k⟩ := by
  have hval : 48 ≤ c.val ∧ c.val ≤ 57 := by simpa [CodePoint.isDigit] using hc
  have hspace : isSpace c = false := by
    simp only [isSpace, Bool.or_eq_false_iff, decide_eq_false_iff_not]
    omega
  have hne : ∀ ch : Char, (ch.toNat < 48 ∨ 57 < ch.toNat) → is ch c = false :=
    fun ch h => is_eq_false (by omega)
  simp [step, stepValue, hspace, hc, hne '"' (by decide), hne '{' (by decide),
    hne '[' (by decide), hne 'n' (by decide), hne 't' (by decide), hne 'f' (by decide),
    hne 'N' (by decide), hne 'I' (by decide), hne '-' (by decide)]

theorem step_minus_digit {c : CodePoint} (hc : c.isDigit = true) (k : List Frame) :
    step cfg ⟨.number .minus ⟨true, [], none, none⟩, k⟩ c =
      .ok ⟨.number .int ⟨true, [c], none, none⟩, k⟩ := by
  simp [step, stepNumber, hc]

/-- A signed integer part: the minus, if there is one, is read first. -/
theorem run_signed (neg : Bool) {ds : PyStr} (hds : IntPart ds) (k : List Frame) (rest : PyStr) :
    run cfg ⟨.value, k⟩ ((if neg then PyStr.ofString "-" else []) ++ (ds ++ rest)) =
      run cfg ⟨.number .int ⟨neg, ds, none, none⟩, k⟩ rest := by
  cases neg with
  | false =>
      simpa using run_intPart hds k (fun c hc => step_value_digit hc k) rest
  | true =>
      have hminus : PyStr.ofString "-" = [CodePoint.ofChar '-'] := rfl
      simp only [if_true, hminus, List.singleton_append]
      rw [run_cons (step_value_minus k)]
      exact run_intPart hds k (fun c hc => step_minus_digit hc k) rest

theorem run_intStr {z : Int} (hz : Json.intFits z = true) (k : List Frame) {rest : PyStr}
    (hrest : Delimited rest) :
    run cfg ⟨.value, k⟩ (intStr z ++ rest) = run cfg (complete (.int z) k) rest := by
  have hlen : (natStr z.natAbs).length ≤ Json.maxIntDigits := by
    simpa [Json.intFits] using hz
  cases z with
  | ofNat n =>
      have hv : numberValue ⟨false, natStr n, none, none⟩ = .ok (.int (Int.ofNat n)) := by
        simpa [numberValue, natOfDigits_natStr] using hlen
      exact (run_signed false (intPart_natStr n) k rest).trans (run_number rfl hv hrest k)
  | negSucc n =>
      have hv : numberValue ⟨true, natStr (n + 1), none, none⟩ = .ok (.int (Int.negSucc n)) := by
        have hneg : -((n + 1 : Nat) : Int) = Int.negSucc n := rfl
        have hlen' : (natStr (n + 1)).length ≤ Json.maxIntDigits := hlen
        simp only [numberValue, and_self, if_true, hlen', natOfDigits_natStr, hneg]
      exact (run_signed true (intPart_natStr (n + 1)) k rest).trans (run_number rfl hv hrest k)

/-- A literal with a fraction or an exponent, as the grammar allows it. -/
structure FloatShape (l : FloatLexeme) : Prop where
  int : IntPart l.int
  frac : ∀ ds ∈ l.frac, ds ≠ [] ∧ ∀ c ∈ ds, c.isDigit = true
  exp : ∀ e ∈ l.exp, e.digits ≠ [] ∧ ∀ c ∈ e.digits, c.isDigit = true
  some : l.frac ≠ none ∨ l.exp ≠ none

theorem numberValue_float {l : FloatLexeme} (h : FloatShape l) :
    numberValue l = .ok (.float (PyFloat.ofLexeme l)) := by
  unfold numberValue
  rw [if_neg]
  rintro ⟨hf, he⟩
  exact h.some.elim (absurd hf) (absurd he)

/-- The fraction of a literal: the point, and at least one digit after it. -/
theorem run_frac {neg : Bool} {ds fs : PyStr} (hne : fs ≠ []) (hfs : ∀ c ∈ fs, c.isDigit = true)
    (k : List Frame) (rest : PyStr) :
    run cfg ⟨.number .int ⟨neg, ds, none, none⟩, k⟩ (PyStr.ofString "." ++ (fs ++ rest)) =
      run cfg ⟨.number .frac ⟨neg, ds, some fs, none⟩, k⟩ rest := by
  have hdot : PyStr.ofString "." = [CodePoint.ofChar '.'] := rfl
  have hpoint : step cfg ⟨.number .int ⟨neg, ds, none, none⟩, k⟩ (CodePoint.ofChar '.') =
      .ok ⟨.number .point ⟨neg, ds, none, none⟩, k⟩ := by
    have hdigit : (CodePoint.ofChar '.').isDigit = false := by decide
    simp [step, stepNumber, hdigit]
  cases fs with
  | nil => exact absurd rfl hne
  | cons c fs =>
      have hc := hfs c (by simp)
      have hfirst : step cfg ⟨.number .point ⟨neg, ds, none, none⟩, k⟩ c =
          .ok ⟨.number .frac ⟨neg, ds, some [c], none⟩, k⟩ := by
        simp [step, stepNumber, hc]
      simp only [hdot, List.cons_append, List.nil_append]
      rw [run_cons hpoint, run_cons hfirst]
      refine run_digits (fun l ds => { l with frac := l.frac.map (· ++ ds) }) (by simp) ?_
        (fun d hd => hfs d (by simp [hd])) k rest
      intro ds d hd
      simp [stepNumber, hd]

/-- The exponent of a literal, after its integer part or its fraction. -/
theorem run_exp {phase : NumPhase} (hphase : phase = .int ∨ phase = .frac) {l : FloatLexeme}
    (hl : l.exp = none) {e : ExponentPart} (hne : e.digits ≠ [])
    (hds : ∀ c ∈ e.digits, c.isDigit = true) (k : List Frame) (rest : PyStr) :
    run cfg ⟨.number phase l, k⟩
        (PyStr.ofString "e" ++ ((match e.sign with
          | none => []
          | some true => PyStr.ofString "-"
          | some false => PyStr.ofString "+") ++ (e.digits ++ rest))) =
      run cfg ⟨.number .expDigits { l with exp := some e }, k⟩ rest := by
  have he : PyStr.ofString "e" = [CodePoint.ofChar 'e'] := rfl
  have hm : PyStr.ofString "-" = [CodePoint.ofChar '-'] := rfl
  have hp : PyStr.ofString "+" = [CodePoint.ofChar '+'] := rfl
  have hexp : step cfg ⟨.number phase l, k⟩ (CodePoint.ofChar 'e') =
      .ok ⟨.number .exp l, k⟩ := by
    have hdigit : (CodePoint.ofChar 'e').isDigit = false := by decide
    rcases hphase with rfl | rfl <;> simp [step, stepNumber, hdigit]
  obtain ⟨neg, int, frac, exp⟩ := l
  obtain rfl : exp = none := hl
  obtain ⟨sign, digits⟩ := e
  cases digits with
  | nil => exact absurd rfl hne
  | cons c ds =>
      have hc : c.isDigit = true := hds c (by simp)
      have hval : 48 ≤ c.val ∧ c.val ≤ 57 := by simpa [CodePoint.isDigit] using hc
      -- the first digit is no sign: the machine takes it as a digit
      have hminus : is '-' c = false := is_eq_false (by have : '-'.toNat = 45 := rfl; omega)
      have hplus : is '+' c = false := is_eq_false (by have : '+'.toNat = 43 := rfl; omega)
      have hrun : ∀ sign : Option Bool,
          run cfg ⟨.number .expDigits ⟨neg, int, frac, some ⟨sign, [c]⟩⟩, k⟩ (ds ++ rest) =
            run cfg ⟨.number .expDigits ⟨neg, int, frac, some ⟨sign, c :: ds⟩⟩, k⟩ rest := by
        intro sign
        refine run_digits (fun l ds =>
          { l with exp := l.exp.map fun e => { e with digits := e.digits ++ ds } }) (by simp) ?_
          (fun d hd => hds d (by simp [hd])) k rest
        intro ds d hd
        simp [stepNumber, hd]
      -- a sign is read first, and the digits follow it
      have hsign : ∀ (b : Bool) (ch : CodePoint),
          stepNumber .exp ⟨neg, int, frac, none⟩ ch =
            some (.expSign b, ⟨neg, int, frac, none⟩) →
          run cfg ⟨.number .exp ⟨neg, int, frac, none⟩, k⟩ (ch :: c :: (ds ++ rest)) =
            run cfg ⟨.number .expDigits ⟨neg, int, frac, some ⟨some b, c :: ds⟩⟩, k⟩ rest := by
        intro b ch hch
        have hfirst : step cfg ⟨.number .exp ⟨neg, int, frac, none⟩, k⟩ ch =
            .ok ⟨.number (.expSign b) ⟨neg, int, frac, none⟩, k⟩ := by simp [step, hch]
        have hsecond : step cfg ⟨.number (.expSign b) ⟨neg, int, frac, none⟩, k⟩ c =
            .ok ⟨.number .expDigits ⟨neg, int, frac, some ⟨some b, [c]⟩⟩, k⟩ := by
          simp [step, stepNumber, hc]
        rw [run_cons hfirst, run_cons hsecond]
        exact hrun _
      cases sign with
      | none =>
          simp only [he, List.cons_append, List.nil_append]
          have hfirst : step cfg ⟨.number .exp ⟨neg, int, frac, none⟩, k⟩ c =
              .ok ⟨.number .expDigits ⟨neg, int, frac, some ⟨none, [c]⟩⟩, k⟩ := by
            simp [step, stepNumber, hc, hminus, hplus]
          rw [run_cons hexp, run_cons hfirst]
          exact hrun _
      | some negative =>
          cases negative with
          | true =>
              simp only [he, hm, List.cons_append, List.nil_append]
              rw [run_cons hexp]
              exact hsign true _ (by simp [stepNumber])
          | false =>
              simp only [he, hp, List.cons_append, List.nil_append]
              rw [run_cons hexp]
              exact hsign false _ (by simp [stepNumber])

/-- The text of a float literal denotes the float it rounds to. -/
theorem run_text {l : FloatLexeme} (h : FloatShape l) (k : List Frame) {rest : PyStr}
    (hrest : Delimited rest) :
    run cfg ⟨.value, k⟩ (l.text ++ rest) =
      run cfg (complete (.float (PyFloat.ofLexeme l)) k) rest := by
  have hv := numberValue_float h
  obtain ⟨neg, int, frac, exp⟩ := l
  have hint : IntPart int := h.int
  have hend : ∀ phase : NumPhase, phase.complete = true →
      run cfg ⟨.number phase ⟨neg, int, frac, exp⟩, k⟩ rest =
        run cfg (complete (.float (PyFloat.ofLexeme ⟨neg, int, frac, exp⟩)) k) rest :=
    fun phase hphase => run_number hphase hv hrest k
  -- with neither fraction nor exponent the literal would be an integer
  cases frac with
  | none =>
      cases exp with
      | none => exact h.some.elim (absurd rfl) (absurd rfl)
      | some e =>
          obtain ⟨hne, hds⟩ := h.exp e rfl
          simp only [FloatLexeme.text, List.append_assoc, List.nil_append]
          refine (run_signed neg hint k _).trans (Eq.trans ?_ (hend .expDigits rfl))
          exact run_exp (l := ⟨neg, int, none, none⟩) (Or.inl rfl) rfl hne hds k rest
  | some fs =>
      obtain ⟨hfne, hfs⟩ := h.frac fs rfl
      cases exp with
      | none =>
          simp only [FloatLexeme.text, List.append_assoc, List.nil_append]
          refine (run_signed neg hint k _).trans (Eq.trans ?_ (hend .frac rfl))
          exact run_frac hfne hfs k rest
      | some e =>
          obtain ⟨hne, hds⟩ := h.exp e rfl
          simp only [FloatLexeme.text, List.append_assoc]
          refine (run_signed neg hint k _).trans (Eq.trans ?_ (hend .expDigits rfl))
          refine (run_frac hfne hfs k _).trans ?_
          exact run_exp (l := ⟨neg, int, some fs, none⟩) (Or.inr rfl) rfl hne hds k rest

theorem zeros_isDigit {n : Nat} {c : CodePoint} (h : c ∈ PyFloat.zeros n) : c.isDigit = true := by
  obtain ⟨-, rfl⟩ := List.mem_replicate.mp h
  exact digitChar_isDigit (by norm_num)

theorem exponentPart_digits (x : Int) :
    (PyFloat.exponentPart x).digits ≠ [] ∧
      ∀ c ∈ (PyFloat.exponentPart x).digits, c.isDigit = true := by
  unfold PyFloat.exponentPart
  dsimp only
  split_ifs
  · refine ⟨by simp [natStr_ne_nil], fun c hc => ?_⟩
    rcases List.mem_append.mp hc with hc | hc
    · exact zeros_isDigit hc
    · exact natStr_isDigit hc
  · exact ⟨natStr_ne_nil _, fun c hc => natStr_isDigit hc⟩

/-- A prefix of the digits of a positive number is an integer part. -/
theorem intPart_take {d n : Nat} (hd : 0 < d) (hn : 0 < n) (tail : PyStr)
    (htail : ∀ c ∈ tail, c.isDigit = true) : IntPart ((natStr d).take n ++ tail) := by
  obtain ⟨x, rest, hstr, hx, hx10, hrest⟩ := natStr_head (Nat.pos_iff_ne_zero.mp hd)
  obtain ⟨m, rfl⟩ := Nat.exists_eq_succ_of_ne_zero (Nat.pos_iff_ne_zero.mp hn)
  refine ⟨fun c hc => ?_, Or.inr ⟨digitChar x, rest.take m ++ tail, by simp [hstr], digit_ne ?_⟩⟩
  · rcases List.mem_append.mp hc with hc | hc
    · exact natStr_isDigit (List.take_subset _ _ hc)
    · exact htail c hc
  · rw [digitChar_val hx10, digitChar_val (by norm_num)]
    omega

theorem layout_shape {d : Nat} (hd : 0 < d) (neg : Bool) (e : Int) :
    FloatShape (PyFloat.layout neg d e) := by
  have hlen : 0 < (natStr d).length := List.length_pos_of_ne_nil (natStr_ne_nil d)
  have hdigits : ∀ c ∈ natStr d, c.isDigit = true := fun c hc => natStr_isDigit hc
  unfold PyFloat.layout
  dsimp only
  -- `0.000ddd`, `ddd000.0`, `dd.ddd`, `de±xx` and `d.ddde±xx`
  split_ifs with h₁ h₂ h₃ h₄
  · refine ⟨intPart_natStr 0, ?_, by simp, by simp⟩
    rintro ds ⟨⟩
    refine ⟨by simp [natStr_ne_nil], fun c hc => ?_⟩
    rcases List.mem_append.mp hc with hc | hc
    · exact zeros_isDigit hc
    · exact hdigits c hc
  · refine ⟨?_, ?_, by simp, by simp⟩
    · have := intPart_take hd hlen (PyFloat.zeros e.toNat) fun c hc => zeros_isDigit hc
      rwa [List.take_length] at this
    · rintro ds ⟨⟩
      exact ⟨by simp [PyFloat.zeros], fun c hc => zeros_isDigit hc⟩
  · refine ⟨?_, ?_, by simp, by simp⟩
    · have := intPart_take hd (n := ((natStr d).length + e).toNat) (by omega) [] (by simp)
      rwa [List.append_nil] at this
    · rintro ds ⟨⟩
      refine ⟨?_, fun c hc => hdigits c (List.mem_of_mem_drop hc)⟩
      rw [ne_eq, List.drop_eq_nil_iff]
      omega
  · refine ⟨?_, by simp, ?_, by simp⟩
    · have := intPart_take hd (n := 1) (by norm_num) [] (by simp)
      rwa [List.append_nil] at this
    · rintro x ⟨⟩
      exact exponentPart_digits _
  · refine ⟨?_, ?_, ?_, by simp⟩
    · have := intPart_take hd (n := 1) (by norm_num) [] (by simp)
      rwa [List.append_nil] at this
    · rintro ds ⟨⟩
      refine ⟨?_, fun c hc => hdigits c (List.mem_of_mem_drop hc)⟩
      rw [ne_eq, List.drop_eq_nil_iff]
      omega
    · rintro x ⟨⟩
      exact exponentPart_digits _

theorem reprLexeme_shape (neg : Bool) (b : Binary64) : FloatShape (PyFloat.reprLexeme neg b) := by
  unfold PyFloat.reprLexeme
  split_ifs with hz
  · refine ⟨intPart_natStr 0, ?_, by simp, by simp⟩
    rintro ds ⟨⟩
    exact ⟨by simp [PyFloat.zeros], fun c hc => zeros_isDigit hc⟩
  · exact layout_shape (Binary64.shortest_pos hz) neg _

/-! ### Values

The machine has a stack of open containers. The text of a value takes it from the state that
expects a value to the state that the value completes, with the same stack. -/

/-- The literal names are read to their last letter, which completes the value. -/
theorem run_literal {c : CodePoint} {text : PyStr} {v : Json} (k : List Frame)
    (hfirst : step cfg ⟨.value, k⟩ c = .ok ⟨.literal text v, k⟩) (hne : text ≠ [])
    (hv : completeLiteral cfg v k = .ok (complete v k)) (rest : PyStr) :
    run cfg ⟨.value, k⟩ (c :: text ++ rest) = run cfg (complete v k) rest := by
  have go : ∀ text : PyStr, text ≠ [] →
      run cfg ⟨.literal text v, k⟩ (text ++ rest) = run cfg (complete v k) rest := by
    intro text
    induction text with
    | nil => exact fun h => absurd rfl h
    | cons d text ih =>
        intro _
        by_cases hnil : text = []
        · subst hnil
          exact run_cons (by simp [step, hv]) rest
        · rw [List.cons_append, run_cons (by simp only [step, if_true, if_neg hnil]; rfl)]
          exact ih hnil
  rw [List.cons_append, run_cons hfirst]
  exact go text hne

theorem run_blank {st : State} (h : ∀ c, isSpace c = true → step cfg st c = .ok st)
    {blank : PyStr} (hblank : Blank blank) (rest : PyStr) :
    run cfg st (blank ++ rest) = run cfg st rest := by
  induction blank with
  | nil => rfl
  | cons c blank ih =>
      rw [List.cons_append, run_cons (h c (hblank c List.mem_cons_self))]
      exact ih fun d hd => hblank d (List.mem_cons_of_mem _ hd)

theorem step_value_quote (k : List Frame) :
    step cfg ⟨.value, k⟩ (CodePoint.ofChar '"') = .ok ⟨.string ⟨[], false, .none⟩, k⟩ := by
  have hspace : isSpace (CodePoint.ofChar '"') = false := by decide
  simp [step, stepValue, hspace]

theorem step_open {k : List Frame} (h : k.length < cfg.recursionLimit) (ch : Char)
    (hch : ch = '{' ∨ ch = '[') :
    step cfg ⟨.value, k⟩ (CodePoint.ofChar ch) =
      .ok (if ch = '{' then ⟨.firstKey, .key [] :: k⟩ else ⟨.firstItem, .items [] :: k⟩) := by
  have hle : ¬cfg.recursionLimit ≤ k.length := by omega
  rcases hch with rfl | rfl
  · have hspace : isSpace (CodePoint.ofChar '{') = false := by decide
    simp [step, stepValue, hspace, push, hle]
  · have hspace : isSpace (CodePoint.ofChar '[') = false := by decide
    simp [step, stepValue, hspace, push, hle]

/-- A code point that can start a value: ASCII, no white space, no closing bracket. -/
def StartsValue (c : CodePoint) : Prop :=
  is ']' c = false ∧ isSpace c = false ∧ c.val < 128

theorem startsValue_digit {c : CodePoint} (hc : c.isDigit = true) : StartsValue c := by
  have hval : 48 ≤ c.val ∧ c.val ≤ 57 := by simpa [CodePoint.isDigit] using hc
  refine ⟨is_eq_false (by have : ']'.toNat = 93 := rfl; omega), ?_, by omega⟩
  simp only [isSpace, Bool.or_eq_false_iff, decide_eq_false_iff_not]
  omega

instance (c : CodePoint) : Decidable (StartsValue c) := inferInstanceAs (Decidable (_ ∧ _))

theorem text_head {l : FloatLexeme} (h : FloatShape l) :
    ∃ c cs, l.text = c :: cs ∧ StartsValue c := by
  obtain ⟨neg, int, frac, exp⟩ := l
  obtain ⟨c, cs, hint⟩ : ∃ c cs, int = c :: cs := by
    rcases h.int.2 with h | ⟨c, cs, h, -⟩
    · exact ⟨_, _, h⟩
    · exact ⟨c, cs, h⟩
  have hc : c.isDigit = true := h.int.1 c (by simp [hint])
  cases neg with
  | true => exact ⟨CodePoint.ofChar '-', _, rfl, by decide⟩
  | false =>
      simp only [FloatLexeme.text, hint, List.append_assoc, List.cons_append]
      exact ⟨c, _, rfl, startsValue_digit hc⟩

/-- The first code point of a printed value starts a value, so that the parser knows which kind it
reads. -/
theorem render_head (style : Json.DumpStyle) {v : Json} (hv : Json.Sound v) :
    ∃ c cs, Json.render style v = c :: cs ∧ StartsValue c := by
  have hnat : ∀ n, ∃ c cs, natStr n = c :: cs ∧ StartsValue c := by
    intro n
    cases h : natStr n with
    | nil => exact absurd h (natStr_ne_nil n)
    | cons c cs =>
        exact ⟨c, cs, rfl, startsValue_digit (natStr_isDigit (h ▸ List.mem_cons_self ..))⟩
  cases v with
  | null => exact ⟨_, _, rfl, by decide⟩
  | bool b => cases b <;> exact ⟨_, _, rfl, by decide⟩
  | int z =>
      cases z with
      | ofNat n => exact hnat n
      | negSucc n => exact ⟨_, _, rfl, by decide⟩
  | float f =>
      cases f with
      | nan => simp [Json.Sound, PyFloat.isFinite] at hv
      | inf neg => simp [Json.Sound, PyFloat.isFinite] at hv
      | finite neg b =>
          rw [Json.render, PyFloat.repr]
          exact text_head (reprLexeme_shape neg b)
  | str s => exact ⟨_, _, rfl, by decide⟩
  | arr xs => exact ⟨_, _, rfl, by decide⟩
  | obj kvs => exact ⟨_, _, rfl, by decide⟩

/-- The first item of an array is read as any value. -/
theorem run_firstItem {text : PyStr} {c : CodePoint} (hc : StartsValue c) (k : List Frame) :
    run cfg ⟨.firstItem, k⟩ (c :: text) = run cfg ⟨.value, k⟩ (c :: text) := by
  have hstep : step cfg ⟨.firstItem, k⟩ c = step cfg ⟨.value, k⟩ c := by
    simp [step, hc.1, hc.2.1]
  rw [run, run, hstep]

/-- The first item of a printed array. -/
theorem renderItems_head (style : Json.DumpStyle) {xs : List Json} (hne : xs ≠ [])
    (hxs : Json.SoundItems xs) :
    ∃ c cs, Json.renderItems style xs = c :: cs ∧ StartsValue c := by
  match xs, hxs with
  | [], _ => exact absurd rfl hne
  | [x], hxs =>
      rw [Json.renderItems]
      exact render_head style hxs.1
  | x :: y :: ys, hxs =>
      obtain ⟨c, cs, h, hc⟩ := render_head style hxs.1
      refine ⟨c, cs ++ style.itemSep ++ Json.renderItems style (y :: ys), ?_, hc⟩
      rw [Json.renderItems, h, List.cons_append, List.cons_append]
      exact List.cons_ne_nil _ _

/-- A separator between items, and the space after it. -/
theorem run_itemSep {style : Json.DumpStyle} (hstyle : Readable style) (rev : List Json) (v : Json)
    (k : List Frame) (rest : PyStr) :
    run cfg (complete v (.items rev :: k)) (style.itemSep ++ rest) =
      run cfg ⟨.value, .items (v :: rev) :: k⟩ rest := by
  obtain ⟨blank, hsep, hblank⟩ := hstyle.itemSep
  have hspace : isSpace (CodePoint.ofChar ',') = false := by decide
  have hcomma : step cfg (complete v (.items rev :: k)) (CodePoint.ofChar ',') =
      .ok ⟨.value, .items (v :: rev) :: k⟩ := by
    simp [step, complete, stepAfter, hspace]
  rw [hsep, List.cons_append, run_cons hcomma]
  exact run_blank (fun c hc => by simp [step, hc]) hblank rest

/-- The closing bracket of an array. -/
theorem run_closeItems (rev : List Json) (v : Json) (k : List Frame) (rest : PyStr) :
    run cfg (complete v (.items rev :: k)) (CodePoint.ofChar ']' :: rest) =
      run cfg (complete (.arr (rev.reverse ++ [v])) k) rest := by
  have hspace : isSpace (CodePoint.ofChar ']') = false := by decide
  refine run_cons ?_ rest
  simp [step, complete, stepAfter, hspace]

/-- A separator between entries, and the space after it. -/
theorem run_pairSep {style : Json.DumpStyle} (hstyle : Readable style) (d : Dict) (key : PyStr)
    (v : Json)
    (k : List Frame) (rest : PyStr) :
    run cfg (complete v (.member d key :: k)) (style.itemSep ++ rest) =
      run cfg ⟨.nextKey, .key (d.set key v) :: k⟩ rest := by
  obtain ⟨blank, hsep, hblank⟩ := hstyle.itemSep
  have hspace : isSpace (CodePoint.ofChar ',') = false := by decide
  have hcomma : step cfg (complete v (.member d key :: k)) (CodePoint.ofChar ',') =
      .ok ⟨.nextKey, .key (d.set key v) :: k⟩ := by
    simp [step, complete, stepAfter, hspace]
  rw [hsep, List.cons_append, run_cons hcomma]
  exact run_blank (fun c hc => by simp [step, hc]) hblank rest

/-- The closing brace of an object. -/
theorem run_closePairs (d : Dict) (key : PyStr) (v : Json) (k : List Frame) (rest : PyStr) :
    run cfg (complete v (.member d key :: k)) (CodePoint.ofChar '}' :: rest) =
      run cfg (complete (.obj (d.set key v)) k) rest := by
  have hspace : isSpace (CodePoint.ofChar '}') = false := by decide
  refine run_cons ?_ rest
  simp [step, complete, stepAfter, hspace]

/-- A printed key, its colon and the space after it. -/
theorem run_key {st : State} {d : Dict} {k : List Frame}
    (hst : step cfg st (CodePoint.ofChar '"') = .ok ⟨.string ⟨[], false, .none⟩, .key d :: k⟩)
    {key : PyStr} (hkey : key.hasSurrogate = false) {style : Json.DumpStyle}
    (hstyle : Readable style) (rest : PyStr) :
    run cfg st (Json.renderStr style key ++ (style.keySep ++ rest)) =
      run cfg ⟨.value, .member d key :: k⟩ rest := by
  obtain ⟨blank, hsep, hblank⟩ := hstyle.keySep
  have hspace : isSpace (CodePoint.ofChar ':') = false := by decide
  have hcolon : step cfg ⟨.colon, .member d key :: k⟩ (CodePoint.ofChar ':') =
      .ok ⟨.value, .member d key :: k⟩ := by
    simp [step, hspace]
  rw [run_renderStr hkey hst, hsep, List.cons_append, completeString, run_cons hcolon]
  exact run_blank (fun c hc => by simp [step, hc]) hblank rest

theorem step_key_quote {mode : Mode} (hmode : mode = .firstKey ∨ mode = .nextKey)
    (k : List Frame) :
    step cfg ⟨mode, k⟩ (CodePoint.ofChar '"') = .ok ⟨.string ⟨[], false, .none⟩, k⟩ := by
  have hspace : isSpace (CodePoint.ofChar '"') = false := by decide
  rcases hmode with rfl | rfl <;> simp [step, hspace]

/-- A value may come next: no object is waiting for a key. -/
def ExpectsValue (k : List Frame) : Prop := ∀ d k', k ≠ .key d :: k'

theorem completeString_value {k : List Frame} (hk : ExpectsValue k) (s : PyStr) :
    completeString s k = complete (.str s) k := by
  rcases k with _ | ⟨_ | d | _, k⟩
  · rfl
  · rfl
  · exact absurd rfl (hk d k)
  · rfl

theorem set_fresh {d : Dict} {key : PyStr} {v w : Json} {kvs : List (PyStr × Json)}
    (h : (Dict.keys (d ++ (key, w) :: kvs)).Nodup) : d.set key v = d ++ [(key, v)] := by
  refine Dict.set_of_not_mem (fun hmem => ?_) v
  rw [Dict.keys_append, Dict.keys_cons] at h
  exact (List.nodup_append.mp h).2.2 _ hmem _ (List.mem_cons_self ..) rfl

section

variable {style : Json.DumpStyle}

mutual
/-- After the text of a value the machine is in the state that value completes. -/
theorem run_render (hstyle : Readable style) :
    ∀ (v : Json) (k : List Frame) (rest : PyStr), Json.Sound v →
    Json.Unique v → Json.printable false v = true →
    k.length + Json.depth v ≤ cfg.recursionLimit → ExpectsValue k → Delimited rest →
    run cfg ⟨.value, k⟩ (Json.render style v ++ rest) = run cfg (complete v k) rest
  | .null, k, rest, _, _, _, _, _, _ =>
      run_literal k (by rfl) (by decide) rfl rest
  | .bool true, k, rest, _, _, _, _, _, _ =>
      run_literal k (by rfl) (by decide) rfl rest
  | .bool false, k, rest, _, _, _, _, _, _ =>
      run_literal k (by rfl) (by decide) rfl rest
  | .int z, k, rest, _, _, hp, _, _, hrest => run_intStr hp k hrest
  | .float (.finite neg b), k, rest, _, _, _, _, _, hrest => by
      rw [Json.render, PyFloat.repr, run_text (reprLexeme_shape neg b) k hrest,
        PyFloat.ofLexeme_reprLexeme]
  | .float (.inf neg), _, _, hs, _, _, _, _, _ => by simp [Json.Sound, PyFloat.isFinite] at hs
  | .float .nan, _, _, hs, _, _, _, _, _ => by simp [Json.Sound, PyFloat.isFinite] at hs
  | .str s, k, rest, hs, _, _, _, hk, _ => by
      rw [Json.render, run_renderStr hs.2 (step_value_quote k), completeString_value hk]
  | .arr xs, k, rest, hs, hu, hp, hd, _, _ => by
      have hopen : PyStr.ofString "[" = [CodePoint.ofChar '['] := rfl
      have hclose : PyStr.ofString "]" = [CodePoint.ofChar ']'] := rfl
      rw [Json.depth] at hd
      rw [Json.render]
      simp only [hopen, hclose, List.append_assoc, List.cons_append, List.nil_append]
      -- the bracket pushes a frame: the depth of the items is one less
      rw [run_cons (step_open (by omega) '[' (Or.inr rfl))]
      match xs, hs, hu, hp, hd with
      | [], _, _, _, _ =>
          have hspace : isSpace (CodePoint.ofChar ']') = false := by decide
          refine run_cons ?_ rest
          simp [step, hspace]
      | x :: xs, hs, hu, hp, hd =>
          obtain ⟨c, cs, hhead, hc⟩ := renderItems_head style (List.cons_ne_nil x xs) hs
          have hitems := run_renderItems hstyle (x :: xs) [] k rest (by simp) hs hu hp (by omega)
          simp only [hhead, List.cons_append] at hitems ⊢
          exact (run_firstItem hc _).trans hitems
  | .obj kvs, k, rest, hs, hu, hp, hd, _, _ => by
      have hopen : PyStr.ofString "\x7b" = [CodePoint.ofChar '{'] := rfl
      have hclose : PyStr.ofString "\x7d" = [CodePoint.ofChar '}'] := rfl
      rw [Json.depth] at hd
      rw [Json.render]
      simp only [hopen, hclose, List.append_assoc, List.cons_append, List.nil_append]
      rw [run_cons (step_open (by omega) '{' (Or.inl rfl))]
      match kvs, hs, hu, hp, hd with
      | [], _, _, _, _ =>
          have hspace : isSpace (CodePoint.ofChar '}') = false := by decide
          refine run_cons ?_ rest
          simp [step, hspace]
      | p :: kvs, hs, hu, hp, hd =>
          -- the first key, its value, and the pairs after it
          exact run_renderPairs hstyle (p :: kvs) .firstKey [] k rest (by simp) (Or.inl rfl) hs hu.1 hu.2
            hp (by omega)
/-- The items of an array, up to its closing bracket. -/
theorem run_renderItems (hstyle : Readable style) :
    ∀ (xs : List Json) (rev : List Json) (k : List Frame)
    (rest : PyStr), xs ≠ [] → Json.SoundItems xs → Json.UniqueItems xs →
    Json.printableItems false xs = true →
    k.length + 1 + Json.depthItems xs ≤ cfg.recursionLimit →
    run cfg ⟨.value, .items rev :: k⟩
        (Json.renderItems style xs ++ CodePoint.ofChar ']' :: rest) =
      run cfg (complete (.arr (rev.reverse ++ xs)) k) rest
  | [], _, _, _, hne, _, _, _, _ => absurd rfl hne
  | [x], rev, k, rest, _, hs, hu, hp, hd => by
      simp only [Json.printableItems, Bool.and_eq_true, Json.depthItems] at hp hd
      rw [Json.renderItems, run_render hstyle x (.items rev :: k) _ hs.1 hu.1 hp.1
        (by simp only [List.length_cons]; omega) (by simp [ExpectsValue])
        (delimited_cons (by decide)), run_closeItems]
  | x :: y :: ys, rev, k, rest, _, hs, hu, hp, hd => by
      rw [Json.printableItems, Bool.and_eq_true] at hp
      rw [Json.depthItems] at hd
      have hy := run_renderItems hstyle (y :: ys) (x :: rev) k rest (by simp) hs.2 hu.2 hp.2 (by omega)
      rw [Json.renderItems_cons_cons, List.append_assoc, List.append_assoc,
        run_render hstyle x (.items rev :: k) _ hs.1 hu.1 hp.1
          (by simp only [List.length_cons]; omega) (by simp [ExpectsValue])
          (delimited_itemSep hstyle _), run_itemSep hstyle, hy]
      simp
/-- The entries of an object, up to its closing brace. -/
theorem run_renderPairs (hstyle : Readable style) :
    ∀ (kvs : List (PyStr × Json)) (mode : Mode) (d : Dict)
    (k : List Frame) (rest : PyStr), kvs ≠ [] → (mode = .firstKey ∨ mode = .nextKey) →
    Json.SoundPairs kvs → (Dict.keys (d ++ kvs)).Nodup →
    Json.UniquePairs kvs → Json.printablePairs false kvs = true →
    k.length + 1 + Json.depthValues kvs ≤ cfg.recursionLimit →
    run cfg ⟨mode, .key d :: k⟩
        (Json.renderPairs style kvs ++ CodePoint.ofChar '}' :: rest) =
      run cfg (complete (.obj (d ++ kvs)) k) rest
  | [], _, _, _, _, hne, _, _, _, _, _, _ => absurd rfl hne
  | [(key, v)], mode, d, k, rest, _, hmode, hs, hn, hu, hp, hd => by
      simp only [Json.printablePairs, Bool.and_eq_true, Json.depthValues] at hp hd
      rw [Json.renderPairs, List.append_assoc, List.append_assoc,
        run_key (step_key_quote hmode _) hs.1.1.2 hstyle,
        run_render hstyle v (.member d key :: k) _ hs.1.2 hu.1 hp.1
          (by simp only [List.length_cons]; omega) (by simp [ExpectsValue])
          (delimited_cons (by decide)), run_closePairs, set_fresh hn]
  | (key, v) :: q :: kvs, mode, d, k, rest, _, hmode, hs, hn, hu, hp, hd => by
      rw [Json.printablePairs, Bool.and_eq_true] at hp
      rw [Json.depthValues] at hd
      have hq := run_renderPairs hstyle (q :: kvs) .nextKey (d ++ [(key, v)]) k rest (by simp)
        (Or.inr rfl) hs.2 (by simpa using hn) hu.2 hp.2 (by omega)
      simp only [Json.renderPairs_cons_cons, List.append_assoc]
      rw [run_key (step_key_quote hmode _) hs.1.1.2 hstyle,
        run_render hstyle v (.member d key :: k) _ hs.1.2 hu.1 hp.1
          (by simp only [List.length_cons]; omega) (by simp [ExpectsValue])
          (delimited_itemSep hstyle _), run_pairSep hstyle, set_fresh hn, hq]
      simp
end

end

end JsonLoads

/-! ### Printed text

With `ensure_ascii` the printed text is plain ASCII, which every codec leaves as it is. -/

/-- A printable ASCII code point. -/
def CodePoint.Plain (c : CodePoint) : Prop := 32 ≤ c.val ∧ c.val < 127

instance (c : CodePoint) : Decidable c.Plain := inferInstanceAs (Decidable (_ ∧ _))

/-- A string of printable ASCII. -/
def PyStr.Plain (s : PyStr) : Prop := ∀ c ∈ s, c.Plain

theorem CodePoint.Plain.clean {c : CodePoint} (h : c.Plain) : c.Clean := by
  obtain ⟨h₁, h₂⟩ := h
  refine ⟨by omega, ?_⟩
  simp only [isSurrogate, Bool.and_eq_false_iff, decide_eq_false_iff_not]
  omega

theorem CodePoint.plain_of_isDigit {c : CodePoint} (h : c.isDigit = true) : c.Plain := by
  simp only [isDigit, Bool.and_eq_true, decide_eq_true_eq] at h
  exact ⟨by omega, by omega⟩

namespace PyStr

@[simp] theorem plain_nil : Plain [] := by simp [Plain]

@[simp] theorem plain_append {s t : PyStr} : Plain (s ++ t) ↔ s.Plain ∧ t.Plain := by
  simp only [Plain, List.mem_append, or_imp, forall_and]

theorem plain_of_digits {s : PyStr} (h : ∀ c ∈ s, c.isDigit = true) : s.Plain :=
  fun c hc => CodePoint.plain_of_isDigit (h c hc)

theorem plain_ofString {s : String}
    (h : (s.toList.all fun ch => 32 ≤ ch.toNat && ch.toNat < 127) = true) :
    (PyStr.ofString s).Plain := by
  intro c hc
  obtain ⟨ch, hch, rfl⟩ := List.mem_map.mp hc
  have hplain : 32 ≤ ch.toNat ∧ ch.toNat < 127 := by simpa using List.all_eq_true.mp h ch hch
  exact hplain

theorem Plain.ascii {s : PyStr} (h : s.Plain) : PyStr.Ascii s := fun c hc => by
  have := (h c hc).2
  omega

theorem Plain.clean {s : PyStr} (h : s.Plain) : s.Clean :=
  PyStr.clean_iff.mpr fun c hc => (h c hc).clean

end PyStr

theorem natStr_plain (n : Nat) : (natStr n).Plain :=
  PyStr.plain_of_digits fun _ hc => natStr_isDigit hc

namespace Json

open JsonLoads

theorem intStr_plain (z : Int) : (intStr z).Plain := by
  cases z with
  | ofNat n => exact natStr_plain n
  | negSucc n =>
      have hminus : (PyStr.ofString "-").Plain := PyStr.plain_ofString (by decide)
      exact PyStr.plain_append.mpr ⟨hminus, natStr_plain (n + 1)⟩

theorem text_plain {l : FloatLexeme} (h : FloatShape l) : l.text.Plain := by
  have hm : (PyStr.ofString "-").Plain := PyStr.plain_ofString (by decide)
  have hp : (PyStr.ofString "+").Plain := PyStr.plain_ofString (by decide)
  have hdot : (PyStr.ofString ".").Plain := PyStr.plain_ofString (by decide)
  have he : (PyStr.ofString "e").Plain := PyStr.plain_ofString (by decide)
  obtain ⟨neg, int, frac, exp⟩ := l
  have hneg : (if neg then PyStr.ofString "-" else []).Plain := by
    cases neg
    · exact PyStr.plain_nil
    · exact hm
  have hint : PyStr.Plain int := PyStr.plain_of_digits h.int.1
  simp only [FloatLexeme.text, PyStr.plain_append]
  refine ⟨⟨⟨hneg, hint⟩, ?_⟩, ?_⟩
  · cases frac with
    | none => exact PyStr.plain_nil
    | some ds => exact PyStr.plain_append.mpr ⟨hdot, PyStr.plain_of_digits (h.frac ds rfl).2⟩
  · cases exp with
    | none => exact PyStr.plain_nil
    | some e =>
        have hds := PyStr.plain_of_digits (h.exp e rfl).2
        obtain ⟨sign, ds⟩ := e
        rcases sign with _ | _ | _
        · exact PyStr.plain_append.mpr ⟨PyStr.plain_append.mpr ⟨he, PyStr.plain_nil⟩, hds⟩
        · exact PyStr.plain_append.mpr ⟨PyStr.plain_append.mpr ⟨he, hp⟩, hds⟩
        · exact PyStr.plain_append.mpr ⟨PyStr.plain_append.mpr ⟨he, hm⟩, hds⟩

theorem escapeUnit_plain (u : Nat) : (escapeUnit u).Plain := by
  have hhex : ∀ d : Fin 16, (hexChar d.val).Plain := by decide
  have hmod : ∀ n, (hexChar (n % 16)).Plain := fun n => hhex ⟨n % 16, Nat.mod_lt _ (by norm_num)⟩
  have hb : (CodePoint.ofChar '\\').Plain := by decide
  have hu : (CodePoint.ofChar 'u').Plain := by decide
  simp [PyStr.Plain, escapeUnit, hmod, hb, hu]

theorem escapeChar_plain {ch : Char} (h : 32 ≤ ch.toNat ∧ ch.toNat < 127) :
    (escapeChar ch).Plain := by
  have hb : (CodePoint.ofChar '\\').Plain := by decide
  have hch : (CodePoint.ofChar ch).Plain := h
  simp [PyStr.Plain, escapeChar, hb, hch]

/-- An escape is printable ASCII, or the code point itself where that is allowed. -/
theorem escape_cases (ensureAscii : Bool) (c : CodePoint) :
    (escape ensureAscii c).Plain ∨ (escape ensureAscii c = [c] ∧ ensureAscii = false) := by
  unfold escape
  split_ifs with h₁ h₂ h₃ h₄ h₅ h₆ h₇ h₈ h₉ h₁₀
  · exact Or.inl (escapeChar_plain (by decide))
  · exact Or.inl (escapeChar_plain (by decide))
  · exact Or.inl (escapeChar_plain (by decide))
  · exact Or.inl (escapeChar_plain (by decide))
  · exact Or.inl (escapeChar_plain (by decide))
  · exact Or.inl (escapeChar_plain (by decide))
  · exact Or.inl (escapeChar_plain (by decide))
  · exact Or.inl (escapeUnit_plain _)
  · exact Or.inl (escapeUnit_plain _)
  · exact Or.inl (PyStr.plain_append.mpr ⟨escapeUnit_plain _, escapeUnit_plain _⟩)
  · cases ensureAscii with
    | false => exact Or.inr ⟨rfl, rfl⟩
    | true =>
        simp only [Bool.true_and, decide_eq_true_eq] at h₉
        refine Or.inl fun d hd => ?_
        obtain rfl := List.mem_singleton.mp hd
        exact ⟨by omega, by omega⟩

/-- A property of code points that holds of everything a style prints for sound
values: printable ASCII has it, the separators have it, and every code point of a
clean string has it unless the style escapes it. -/
structure PrintsIn (st : DumpStyle) (P : CodePoint → Prop) : Prop where
  plain : ∀ c, c.Plain → P c
  itemSep : st.itemSep.Plain
  keySep : st.keySep.Plain
  clean : st.ensureAscii = false → ∀ c, c.Clean → P c

section

variable {st : DumpStyle} {P : CodePoint → Prop}

theorem PrintsIn.append {s t : PyStr} (hs : ∀ c ∈ s, P c) (ht : ∀ c ∈ t, P c) :
    ∀ c ∈ s ++ t, P c := by
  intro c hc
  rcases List.mem_append.mp hc with hc | hc
  · exact hs c hc
  · exact ht c hc

theorem PrintsIn.of_plain (h : PrintsIn st P) {s : PyStr} (hs : s.Plain) : ∀ c ∈ s, P c :=
  fun c hc => h.plain c (hs c hc)

theorem PrintsIn.renderStr (h : PrintsIn st P) {s : PyStr} (hs : s.Clean) :
    ∀ c ∈ renderStr st s, P c := by
  have hquote : (PyStr.ofString "\"").Plain := PyStr.plain_ofString (by decide)
  refine append (append (h.of_plain hquote) fun c hc => ?_) (h.of_plain hquote)
  obtain ⟨d, hd, hc⟩ := List.mem_flatMap.mp hc
  rcases escape_cases st.ensureAscii d with hplain | ⟨hself, hfalse⟩
  · exact h.plain c (hplain c hc)
  · rw [hself, List.mem_singleton] at hc
    exact h.clean hfalse c (hc ▸ PyStr.clean_iff.mp hs d hd)

mutual
/-- The text of a sound value stays within what its style prints. -/
theorem PrintsIn.render (h : PrintsIn st P) : ∀ v : Json, Sound v → ∀ c ∈ render st v, P c
  | .null, _ => h.of_plain (PyStr.plain_ofString (by decide))
  | .bool true, _ => h.of_plain (PyStr.plain_ofString (by decide))
  | .bool false, _ => h.of_plain (PyStr.plain_ofString (by decide))
  | .int z, _ => h.of_plain (intStr_plain z)
  | .float (.finite neg b), _ => h.of_plain (text_plain (reprLexeme_shape neg b))
  | .float (.inf _), hs => by simp [Sound, PyFloat.isFinite] at hs
  | .float .nan, hs => by simp [Sound, PyFloat.isFinite] at hs
  | .str _, hs => h.renderStr hs
  | .arr xs, hs =>
      append (append (h.of_plain (PyStr.plain_ofString (by decide))) (h.renderItems xs hs))
        (h.of_plain (PyStr.plain_ofString (by decide)))
  | .obj kvs, hs =>
      append (append (h.of_plain (PyStr.plain_ofString (by decide))) (h.renderPairs kvs hs))
        (h.of_plain (PyStr.plain_ofString (by decide)))
theorem PrintsIn.renderItems (h : PrintsIn st P) : ∀ xs : List Json, SoundItems xs →
    ∀ c ∈ renderItems st xs, P c
  | [], _ => by simp [Json.renderItems]
  | [x], hs => h.render x hs.1
  | x :: y :: ys, hs => by
      rw [renderItems_cons_cons]
      exact append (h.render x hs.1)
        (append (h.of_plain h.itemSep) (h.renderItems (y :: ys) hs.2))
theorem PrintsIn.renderPairs (h : PrintsIn st P) : ∀ kvs : List (PyStr × Json),
    SoundPairs kvs → ∀ c ∈ renderPairs st kvs, P c
  | [], _ => by simp [Json.renderPairs]
  | [(k, v)], hs =>
      append (append (h.renderStr hs.1.1) (h.of_plain h.keySep)) (h.render v hs.1.2)
  | (k, v) :: q :: kvs, hs => by
      rw [renderPairs_cons_cons]
      exact append (h.renderStr hs.1.1) (append (h.of_plain h.keySep)
        (append (h.render v hs.1.2)
          (append (h.of_plain h.itemSep) (h.renderPairs (q :: kvs) hs.2))))
end

end

/-- What goes over the wire is printable ASCII. -/
theorem render_wire_plain {v : Json} (hv : Sound v) : (render .wire v).Plain :=
  have hprints : PrintsIn .wire CodePoint.Plain :=
    ⟨fun _ h => h, PyStr.plain_ofString (by decide), PyStr.plain_ofString (by decide),
      by simp [DumpStyle.wire]⟩
  hprints.render v hv

/-- The compact text of a sound value is clean. -/
theorem render_compact_clean {v : Json} (hv : Sound v) : (render .compact v).Clean :=
  have hprints : PrintsIn .compact CodePoint.Clean :=
    ⟨fun _ h => h.clean, PyStr.plain_ofString (by decide), PyStr.plain_ofString (by decide),
      fun _ _ h => h⟩
  PyStr.clean_iff.mpr (hprints.render v hv)

end Json

/-! ### The round trip -/

/-- **What `json.dumps` prints, `json.loads` reads back**, with any readable separators. -/
theorem loads_render_style {cfg : JsonLoads.Config} {style : Json.DumpStyle}
    (hstyle : JsonLoads.Readable style) {v : Json} (hs : Json.Sound v) (hu : Json.Unique v)
    (hp : Json.printable false v = true) (hd : Json.depth v ≤ cfg.recursionLimit) :
    loads cfg (Json.render style v) = .ok v := by
  have hrun : JsonLoads.run cfg JsonLoads.start (Json.render style v) = .ok v := by
    have := JsonLoads.run_render hstyle v [] [] hs hu hp (by simpa using hd)
      (by simp [JsonLoads.ExpectsValue]) (Or.inl rfl)
    rwa [List.append_nil] at this
  have hbom : (Json.render style v).head? ≠ some (Fin.ofNat _ 0xfeff) := by
    obtain ⟨c, cs, hhead, -, -, hascii⟩ := JsonLoads.render_head style hs
    intro h
    rw [hhead, List.head?_cons] at h
    obtain rfl := Option.some.inj h
    simp at hascii
  rw [loads, if_neg hbom, hrun]

theorem loads_render {cfg : JsonLoads.Config} {v : Json} (hs : Json.Sound v)
    (hu : Json.Unique v) (hp : Json.printable false v = true)
    (hd : Json.depth v ≤ cfg.recursionLimit) :
    loads cfg (Json.render .wire v) = .ok v :=
  loads_render_style JsonLoads.readable_wire hs hu hp hd

end EventPipeline.Python
