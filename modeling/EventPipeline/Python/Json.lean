import EventPipeline.Python.Float

/-!
# EventPipeline.Python.Json

The values `json.loads` builds and the text `json.dumps` prints. A Python `dict`
is an association list in insertion order (`Dict`); `Dict.set` overwrites in
place, as item assignment does, so a dict built by it never repeats a key.
-/

namespace EventPipeline.Python

/-- A value of the `json` module. -/
inductive Json
  | null
  | bool (b : Bool)
  | int (z : Int)
  | float (f : PyFloat)
  | str (s : PyStr)
  | arr (xs : List Json)
  | obj (kvs : List (PyStr × Json))
  deriving Inhabited

/-- A Python `dict` with string keys. -/
abbrev Dict := List (PyStr × Json)

/-! ### Dictionaries

A dict keeps the order of insertion, and an assignment to a key that is there keeps its place. -/

namespace Dict

/-- `d.get(k)`, and `d[k]` where the key is present. -/
def get? : Dict → PyStr → Option Json
  | [], _ => none
  | (k', v) :: d, k => if k' = k then some v else get? d k

/-- `k in d`. -/
def has (d : Dict) (k : PyStr) : Bool := (d.get? k).isSome

/-- `d[k] = v`. -/
def set : Dict → PyStr → Json → Dict
  | [], k, v => [(k, v)]
  | (k', v') :: d, k, v => if k' = k then (k', v) :: d else (k', v') :: set d k v

/-- The keys in insertion order. -/
def keys (d : Dict) : List PyStr := d.map Prod.fst

@[simp] theorem get?_nil (k : PyStr) : get? [] k = none := rfl

@[simp] theorem get?_cons (k' : PyStr) (v : Json) (d : Dict) (k : PyStr) :
    get? ((k', v) :: d) k = if k' = k then some v else get? d k := rfl

theorem get?_append (d e : Dict) (k : PyStr) :
    get? (d ++ e) k = (get? d k).or (get? e k) := by
  induction d with
  | nil => simp
  | cons p d ih =>
      obtain ⟨k', v⟩ := p
      by_cases h : k' = k <;> simp [h, ih]

theorem get?_set_self (d : Dict) (k : PyStr) (v : Json) : get? (set d k v) k = some v := by
  induction d with
  | nil => simp [set]
  | cons p d ih =>
      obtain ⟨k', v'⟩ := p
      by_cases h : k' = k <;> simp [set, h, ih]

theorem get?_set_of_ne {k k' : PyStr} (h : k ≠ k') (d : Dict) (v : Json) :
    get? (set d k v) k' = get? d k' := by
  induction d with
  | nil => simp [set, h]
  | cons p d ih =>
      obtain ⟨k₀, v'⟩ := p
      by_cases hk : k₀ = k
      · subst hk
        simp [set, h]
      · simp [set, hk, ih]

theorem get?_eq_some_mem {d : Dict} {k : PyStr} {v : Json} (h : get? d k = some v) :
    (k, v) ∈ d := by
  induction d with
  | nil => simp at h
  | cons p d ih =>
      obtain ⟨k', v'⟩ := p
      by_cases hk : k' = k
      · subst hk
        simp only [get?_cons, if_true, Option.some.injEq] at h
        simp [h]
      · simp only [get?_cons, hk, if_false] at h
        exact List.mem_cons_of_mem _ (ih h)

/-- Assigning a fresh key appends it. -/
theorem set_of_not_mem {d : Dict} {k : PyStr} (h : k ∉ d.keys) (v : Json) :
    set d k v = d ++ [(k, v)] := by
  induction d with
  | nil => rfl
  | cons p d ih =>
      obtain ⟨k', v'⟩ := p
      simp only [keys, List.map_cons, List.mem_cons, not_or] at h
      have hne : ¬k' = k := fun he => h.1 he.symm
      rw [set, if_neg hne, ih h.2, List.cons_append]

@[simp] theorem keys_nil : keys [] = [] := rfl

@[simp] theorem keys_cons (p : PyStr × Json) (d : Dict) : keys (p :: d) = p.1 :: keys d := rfl

@[simp] theorem keys_append (d e : Dict) : keys (d ++ e) = keys d ++ keys e := List.map_append

theorem keys_set (d : Dict) (k : PyStr) (v : Json) :
    (set d k v).keys = if k ∈ d.keys then d.keys else d.keys ++ [k] := by
  induction d with
  | nil => simp [set]
  | cons p d ih =>
      obtain ⟨k', v'⟩ := p
      by_cases h : k' = k
      · simp [set, h]
      · have h' : ¬k = k' := fun he => h he.symm
        by_cases hk : k ∈ keys d
        · rw [if_pos hk] at ih
          simp [set, h, hk, ih]
        · rw [if_neg hk] at ih
          simp [set, h, h', hk, ih]

theorem nodup_set {d : Dict} (h : d.keys.Nodup) (k : PyStr) (v : Json) :
    (set d k v).keys.Nodup := by
  rw [keys_set]
  split_ifs with hk
  · exact h
  · exact List.nodup_append.mpr ⟨h, by simp, by
      rintro a ha b hb rfl
      exact hk (List.mem_singleton.mp hb ▸ ha)⟩

theorem mem_set {d : Dict} {k : PyStr} {v : Json} {p : PyStr × Json} (h : p ∈ set d k v) :
    p ∈ d ∨ p = (k, v) := by
  induction d with
  | nil => exact Or.inr (by simpa [set] using h)
  | cons q d ih =>
      obtain ⟨k', v'⟩ := q
      by_cases hk : k' = k
      · subst hk
        simp only [set, if_true, List.mem_cons] at h ⊢
        tauto
      · simp only [set, hk, if_false, List.mem_cons] at h ⊢
        rcases h with h | h
        · exact Or.inl (Or.inl h)
        · rcases ih h with h | h
          · exact Or.inl (Or.inr h)
          · exact Or.inr h

end Dict

namespace Json

/-- `type(a) is type(b)`. -/
def sameType : Json → Json → Bool
  | null, null | bool _, bool _ | int _, int _ | float _, float _ | str _, str _
  | arr _, arr _ | obj _, obj _ => true
  | _, _ => false

/-- The exact value of a number; booleans count as `0` and `1`. -/
def number? : Json → Option ℚ
  | bool b => some (if b then 1 else 0)
  | int z => some z
  | float (.finite neg b) => some (if neg then -b.toRat else b.toRat)
  | _ => none

mutual
/-- Equality as containers compare their items: identity first, so the decoder's
shared `NaN` object equals itself there. -/
def eqItem : Json → Json → Bool
  | .null, .null => true
  | .str s, .str t => s == t
  | .arr xs, .arr ys => eqItems xs ys
  | .obj kvs, .obj lws => kvs.length == lws.length && eqPairs kvs lws
  | .float (.inf a), .float (.inf b) => a == b
  | .float .nan, .float .nan => true
  | a, b =>
      match number? a, number? b with
      | some x, some y => x == y
      | _, _ => false
/-- Item-wise equality of lists. -/
def eqItems : List Json → List Json → Bool
  | [], [] => true
  | x :: xs, y :: ys => eqItem x y && eqItems xs ys
  | _, _ => false
/-- Every entry of the first dict is in the second with an equal value. -/
def eqPairs : List (PyStr × Json) → List (PyStr × Json) → Bool
  | [], _ => true
  | (k, v) :: rest, lws =>
      (match Dict.get? lws k with
        | some w => eqItem v w
        | none => false) && eqPairs rest lws
end

/-- `a == b`; `NaN` differs from itself here. -/
def pyEq : Json → Json → Bool
  | .float .nan, .float .nan => false
  | a, b => eqItem a b

theorem pyEq_str {value : Json} {s : PyStr} : value.pyEq (.str s) = true ↔ value = .str s := by
  cases value with
  | float f => cases f <;> simp [pyEq, eqItem, number?]
  | null => simp [pyEq, eqItem, number?]
  | bool b => simp [pyEq, eqItem, number?]
  | int z => simp [pyEq, eqItem, number?]
  | str t => simp [pyEq, eqItem]
  | arr xs => simp [pyEq, eqItem, number?]
  | obj kvs => simp [pyEq, eqItem, number?]

/-! ### Shape

What the checks of the services are about: the depth of a value, the strings and floats in it, and
keys that are not repeated. -/

mutual
/-- Container levels of a value. -/
def depth : Json → Nat
  | .arr xs => 1 + depthItems xs
  | .obj kvs => 1 + depthValues kvs
  | _ => 0
def depthItems : List Json → Nat
  | [] => 0
  | x :: xs => max (depth x) (depthItems xs)
def depthValues : List (PyStr × Json) → Nat
  | [] => 0
  | (_, v) :: rest => max (depth v) (depthValues rest)
end

mutual
/-- Every string and key is clean and every float finite. -/
def Sound : Json → Prop
  | .str s => s.Clean
  | .float f => f.isFinite = true
  | .arr xs => SoundItems xs
  | .obj kvs => SoundPairs kvs
  | _ => True
def SoundItems : List Json → Prop
  | [] => True
  | x :: xs => Sound x ∧ SoundItems xs
def SoundPairs : List (PyStr × Json) → Prop
  | [] => True
  | (k, v) :: rest => (k.Clean ∧ Sound v) ∧ SoundPairs rest
end

theorem soundPairs_iff {kvs : List (PyStr × Json)} :
    SoundPairs kvs ↔ ∀ p ∈ kvs, p.1.Clean ∧ Sound p.2 := by
  induction kvs with
  | nil => simp [SoundPairs]
  | cons p rest ih =>
      obtain ⟨k, v⟩ := p
      simp [SoundPairs, ih]

theorem SoundPairs.get? {d : Dict} (h : SoundPairs d) {k : PyStr} {v : Json}
    (hv : d.get? k = some v) : Sound v :=
  (soundPairs_iff.mp h _ (Dict.get?_eq_some_mem hv)).2

theorem SoundPairs.set {d : Dict} (h : SoundPairs d) {k : PyStr} (hk : k.Clean) {v : Json}
    (hv : Sound v) : SoundPairs (d.set k v) := by
  refine soundPairs_iff.mpr fun p hp => ?_
  rcases Dict.mem_set hp with hp | rfl
  · exact soundPairs_iff.mp h p hp
  · exact ⟨hk, hv⟩

mutual
/-- No object repeats a key, as no Python `dict` does. -/
def Unique : Json → Prop
  | .arr xs => UniqueItems xs
  | .obj kvs => (Dict.keys kvs).Nodup ∧ UniquePairs kvs
  | _ => True
def UniqueItems : List Json → Prop
  | [] => True
  | x :: xs => Unique x ∧ UniqueItems xs
def UniquePairs : List (PyStr × Json) → Prop
  | [] => True
  | (_, v) :: rest => Unique v ∧ UniquePairs rest
end

theorem uniqueItems_iff {xs : List Json} : UniqueItems xs ↔ ∀ x ∈ xs, Unique x := by
  induction xs with
  | nil => simp [UniqueItems]
  | cons x xs ih => simp [UniqueItems, ih]

theorem uniquePairs_iff {kvs : List (PyStr × Json)} :
    UniquePairs kvs ↔ ∀ p ∈ kvs, Unique p.2 := by
  induction kvs with
  | nil => simp [UniquePairs]
  | cons p rest ih =>
      obtain ⟨k, v⟩ := p
      simp [UniquePairs, ih]

theorem UniquePairs.get? {d : Dict} (h : UniquePairs d) {k : PyStr} {v : Json}
    (hv : d.get? k = some v) : Unique v :=
  uniquePairs_iff.mp h _ (Dict.get?_eq_some_mem hv)

theorem UniquePairs.set {d : Dict} (h : UniquePairs d) (k : PyStr) {v : Json} (hv : Unique v) :
    UniquePairs (d.set k v) := by
  refine uniquePairs_iff.mpr fun p hp => ?_
  rcases Dict.mem_set hp with hp | rfl
  · exact uniquePairs_iff.mp h p hp
  · exact hv

theorem Unique.set {d : Dict} (h : Unique (.obj d)) (k : PyStr) {v : Json} (hv : Unique v) :
    Unique (.obj (d.set k v)) :=
  ⟨Dict.nodup_set h.1 k v, UniquePairs.set h.2 k hv⟩

/-! ### Printing -/

/-- The separators and the `ensure_ascii` flag of a `json.dumps` call. -/
structure DumpStyle where
  itemSep : PyStr
  keySep : PyStr
  ensureAscii : Bool

/-- `json.dumps(value)`, the form sent to Kafka. -/
def DumpStyle.wire : DumpStyle := ⟨", ", ": ", true⟩

/-- `json.dumps(value, ensure_ascii=False, separators=(",", ":"))`. -/
def DumpStyle.compact : DumpStyle := ⟨",", ":", false⟩

/-- A lower-case hexadecimal digit. -/
def hexChar (d : Nat) : CodePoint := if d < 10 then digitChar d else Fin.ofNat _ (87 + d)

/-- `\uXXXX` for a UTF-16 code unit. -/
def escapeUnit (u : Nat) : PyStr :=
  [CodePoint.ofChar '\\', CodePoint.ofChar 'u', hexChar (u / 4096 % 16), hexChar (u / 256 % 16),
    hexChar (u / 16 % 16), hexChar (u % 16)]

/-- A backslash before the given character. -/
def escapeChar (c : Char) : PyStr := [CodePoint.ofChar '\\', CodePoint.ofChar c]

/-- How one code point is printed inside a string. -/
def escape (ensureAscii : Bool) (c : CodePoint) : PyStr :=
  if c.val = 0x22 then escapeChar '"'
  else if c.val = 0x5c then escapeChar '\\'
  else if c.val = 0x0a then escapeChar 'n'
  else if c.val = 0x0d then escapeChar 'r'
  else if c.val = 0x09 then escapeChar 't'
  else if c.val = 0x0c then escapeChar 'f'
  else if c.val = 0x08 then escapeChar 'b'
  else if c.val < 0x20 then escapeUnit c.val
  else if ensureAscii && 0x7e < c.val then
    if c.val < 0x10000 then escapeUnit c.val
    else
      let v := c.val - 0x10000
      escapeUnit (0xd800 + v / 0x400) ++ escapeUnit (0xdc00 + v % 0x400)
  else [c]

/-- A printed string, quotes included. -/
def renderStr (st : DumpStyle) (s : PyStr) : PyStr :=
  PyStr.ofString "\"" ++ s.flatMap (escape st.ensureAscii) ++ PyStr.ofString "\""

mutual
/-- The text `json.dumps` prints. -/
def render (st : DumpStyle) : Json → PyStr
  | .null => PyStr.ofString "null"
  | .bool true => PyStr.ofString "true"
  | .bool false => PyStr.ofString "false"
  | .int z => intStr z
  | .float f => f.repr
  | .str s => renderStr st s
  | .arr xs => PyStr.ofString "[" ++ renderItems st xs ++ PyStr.ofString "]"
  | .obj kvs => PyStr.ofString "\x7b" ++ renderPairs st kvs ++ PyStr.ofString "\x7d"
/-- The items of an array, separated. -/
def renderItems (st : DumpStyle) : List Json → PyStr
  | [] => []
  | [x] => render st x
  | x :: xs => render st x ++ st.itemSep ++ renderItems st xs
/-- The entries of an object, separated. -/
def renderPairs (st : DumpStyle) : List (PyStr × Json) → PyStr
  | [] => []
  | [(k, v)] => renderStr st k ++ st.keySep ++ render st v
  | (k, v) :: rest =>
      renderStr st k ++ st.keySep ++ render st v ++ st.itemSep ++ renderPairs st rest
end

theorem renderItems_cons_cons (st : DumpStyle) (x y : Json) (ys : List Json) :
    renderItems st (x :: y :: ys) = render st x ++ (st.itemSep ++ renderItems st (y :: ys)) := by
  simp [renderItems]

theorem renderPairs_cons_cons (st : DumpStyle) (k : PyStr) (v : Json) (q : PyStr × Json)
    (rest : List (PyStr × Json)) :
    renderPairs st ((k, v) :: q :: rest) =
      renderStr st k ++ (st.keySep ++ (render st v ++ (st.itemSep ++ renderPairs st (q :: rest)))) := by
  simp [renderPairs]

/-- `sys.get_int_max_str_digits()`. -/
def maxIntDigits : Nat := 4300

/-- The interpreter converts `z` to and from decimal text. -/
def intFits (z : Int) : Bool := (natStr z.natAbs).length ≤ maxIntDigits

mutual
/-- Every number can be printed; with `allow_nan=False` floats must be finite. -/
def printable (allowNan : Bool) : Json → Bool
  | .int z => intFits z
  | .float f => allowNan || f.isFinite
  | .arr xs => printableItems allowNan xs
  | .obj kvs => printablePairs allowNan kvs
  | _ => true
def printableItems (allowNan : Bool) : List Json → Bool
  | [] => true
  | x :: xs => printable allowNan x && printableItems allowNan xs
def printablePairs (allowNan : Bool) : List (PyStr × Json) → Bool
  | [] => true
  | (_, v) :: rest => printable allowNan v && printablePairs allowNan rest
end

/-- `json.dumps`; `none` is the `ValueError` of a number that cannot be printed. -/
def dumps (st : DumpStyle) (allowNan : Bool) (v : Json) : Option PyStr :=
  if printable allowNan v then some (render st v) else none

end Json

end EventPipeline.Python
