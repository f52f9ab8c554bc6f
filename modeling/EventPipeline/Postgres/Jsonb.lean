import EventPipeline.Python.Codec
import EventPipeline.Python.Json
import Mathlib.Data.List.Sort

/-!
# EventPipeline.Postgres.Jsonb

What a `jsonb` column gives back of the value written to it.

PostgreSQL keeps the value, not its text. A number becomes a `numeric`, which is printed
without an exponent and has no negative zero: a float that `json.dumps` prints as `1e+300` is
read back as an integer of 301 digits. The entries of an object are sorted by their keys, the
shorter keys first. Strings, literals and the order of arrays are kept.
-/

namespace EventPipeline.Postgres

open EventPipeline.Python

/-- A finite float read back. `repr` prints an exponent that is not negative where the decimal
point falls behind the sixteenth digit, and `numeric` prints such a number as an integer. -/
def jsonbFloat (neg : Bool) (b : Binary64) : Json :=
  if b = Binary64.zero then .float (.finite false b)
  else if 16 < (natStr b.shortest.1).length + b.shortest.2 then
    .int (if neg then -(b.shortest.1 * 10 ^ b.shortest.2.toNat : Int)
      else b.shortest.1 * 10 ^ b.shortest.2.toNat)
  else .float (.finite neg b)

/-- The order of the keys of an object: by length in UTF-8, then byte by byte. -/
def jsonbKeyLe (k k' : PyStr) : Bool :=
  let bytes := k.flatMap utf8Char
  let bytes' := k'.flatMap utf8Char
  bytes.length < bytes'.length ||
    (bytes.length == bytes'.length && !bytes'.lex bytes (· < ·))

/-- The entries of an object in that order. -/
def jsonbSorted (kvs : List (PyStr × Json)) : List (PyStr × Json) :=
  kvs.insertionSort fun p q => jsonbKeyLe p.1 q.1 = true

mutual
/-- A value written to a `jsonb` column, read back. -/
def jsonbValue : Json → Json
  | .float (.finite neg b) => jsonbFloat neg b
  | .arr xs => .arr (jsonbItems xs)
  | .obj kvs => .obj (jsonbSorted (jsonbPairs kvs))
  | v => v
def jsonbItems : List Json → List Json
  | [] => []
  | x :: xs => jsonbValue x :: jsonbItems xs
def jsonbPairs : List (PyStr × Json) → List (PyStr × Json)
  | [] => []
  | (k, v) :: rest => (k, jsonbValue v) :: jsonbPairs rest
end

/-- An object written to a `jsonb` column, read back. -/
def jsonbDict (d : Dict) : Dict := jsonbSorted (jsonbPairs d)

theorem jsonbSorted_perm (kvs : List (PyStr × Json)) : List.Perm (jsonbSorted kvs) kvs :=
  List.perm_insertionSort _ kvs

theorem keys_jsonbPairs (kvs : List (PyStr × Json)) :
    Dict.keys (jsonbPairs kvs) = Dict.keys kvs := by
  induction kvs with
  | nil => rfl
  | cons p rest ih =>
      obtain ⟨k, v⟩ := p
      rw [jsonbPairs, Dict.keys_cons, Dict.keys_cons, ih]

/-- No key is lost or added. -/
theorem keys_jsonbDict (d : Dict) : List.Perm (jsonbDict d).keys d.keys := by
  rw [← keys_jsonbPairs d]
  exact (jsonbSorted_perm _).map _

theorem jsonbFloat_unique (neg : Bool) (b : Binary64) : Json.Unique (jsonbFloat neg b) := by
  unfold jsonbFloat
  split_ifs <;> trivial

theorem uniquePairs_jsonbSorted {kvs : List (PyStr × Json)} (h : Json.UniquePairs kvs) :
    Json.UniquePairs (jsonbSorted kvs) := by
  refine Json.uniquePairs_iff.mpr fun p hp => ?_
  exact Json.uniquePairs_iff.mp h p ((jsonbSorted_perm kvs).mem_iff.mp hp)

mutual
/-- **What is read back repeats no key** either. -/
theorem jsonbValue_unique : ∀ {v : Json}, v.Unique → (jsonbValue v).Unique
  | .null, _ | .bool _, _ | .int _, _ | .str _, _ => trivial
  | .float (.finite neg b), _ => jsonbFloat_unique neg b
  | .float (.inf _), _ | .float .nan, _ => trivial
  | .arr xs, h => show Json.UniqueItems (jsonbItems xs) from jsonbItems_unique h
  | .obj kvs, h =>
      ⟨((keys_jsonbDict kvs).nodup_iff).mpr h.1, uniquePairs_jsonbSorted (jsonbPairs_unique h.2)⟩
theorem jsonbItems_unique : ∀ {xs : List Json}, Json.UniqueItems xs →
    Json.UniqueItems (jsonbItems xs)
  | [], _ => trivial
  | _ :: _, h => ⟨jsonbValue_unique h.1, jsonbItems_unique h.2⟩
theorem jsonbPairs_unique : ∀ {kvs : List (PyStr × Json)}, Json.UniquePairs kvs →
    Json.UniquePairs (jsonbPairs kvs)
  | [], _ => trivial
  | (_, _) :: _, h => ⟨jsonbValue_unique h.1, jsonbPairs_unique h.2⟩
end

theorem jsonbDict_unique {d : Dict} (h : Json.Unique (.obj d)) : Json.Unique (.obj (jsonbDict d)) :=
  jsonbValue_unique h

/-! ### Soundness and depth

Reading back changes neither: the entries are those that were written, in another order, and a
float becomes a number. -/

theorem soundPairs_jsonbSorted {kvs : List (PyStr × Json)} (h : Json.SoundPairs kvs) :
    Json.SoundPairs (jsonbSorted kvs) := by
  refine Json.soundPairs_iff.mpr fun p hp => ?_
  exact Json.soundPairs_iff.mp h p ((jsonbSorted_perm kvs).mem_iff.mp hp)

theorem depthValues_perm {kvs kvs' : List (PyStr × Json)} (h : List.Perm kvs kvs') :
    Json.depthValues kvs = Json.depthValues kvs' := by
  induction h with
  | nil => rfl
  | cons p _ ih => rw [Json.depthValues, Json.depthValues, ih]
  | swap p q rest => simp only [Json.depthValues, max_left_comm]
  | trans _ _ ih ih' => exact ih.trans ih'

theorem jsonbFloat_sound (neg : Bool) (b : Binary64) : Json.Sound (jsonbFloat neg b) := by
  unfold jsonbFloat
  split_ifs <;> trivial

theorem jsonbFloat_depth (neg : Bool) (b : Binary64) : Json.depth (jsonbFloat neg b) = 0 := by
  unfold jsonbFloat
  split_ifs <;> rfl

mutual
theorem jsonbValue_sound : ∀ {v : Json}, Json.Sound v → Json.Sound (jsonbValue v)
  | .null, _ | .bool _, _ | .int _, _ => trivial
  | .str _, h => h
  | .float (.finite neg b), _ => jsonbFloat_sound neg b
  | .float (.inf _), h | .float .nan, h => h
  | .arr xs, h => show Json.SoundItems (jsonbItems xs) from jsonbItems_sound h
  | .obj _, h => soundPairs_jsonbSorted (jsonbPairs_sound h)
theorem jsonbItems_sound : ∀ {xs : List Json}, Json.SoundItems xs → Json.SoundItems (jsonbItems xs)
  | [], _ => trivial
  | _ :: _, h => ⟨jsonbValue_sound h.1, jsonbItems_sound h.2⟩
theorem jsonbPairs_sound : ∀ {kvs : List (PyStr × Json)}, Json.SoundPairs kvs →
    Json.SoundPairs (jsonbPairs kvs)
  | [], _ => trivial
  | (_, _) :: _, h => ⟨⟨h.1.1, jsonbValue_sound h.1.2⟩, jsonbPairs_sound h.2⟩
end

mutual
theorem jsonbValue_depth : ∀ v : Json, Json.depth (jsonbValue v) = Json.depth v
  | .null | .bool _ | .int _ | .str _ | .float (.inf _) | .float .nan => rfl
  | .float (.finite neg b) => jsonbFloat_depth neg b
  | .arr xs => congrArg (1 + ·) (jsonbItems_depth xs)
  | .obj kvs =>
      congrArg (1 + ·) ((depthValues_perm (jsonbSorted_perm _)).trans (jsonbPairs_depth kvs))
theorem jsonbItems_depth : ∀ xs : List Json, Json.depthItems (jsonbItems xs) = Json.depthItems xs
  | [] => rfl
  | x :: xs => by
      rw [jsonbItems, Json.depthItems, Json.depthItems, jsonbValue_depth x, jsonbItems_depth xs]
theorem jsonbPairs_depth : ∀ kvs : List (PyStr × Json),
    Json.depthValues (jsonbPairs kvs) = Json.depthValues kvs
  | [] => rfl
  | (_, v) :: rest => by
      rw [jsonbPairs, Json.depthValues, Json.depthValues, jsonbValue_depth v, jsonbPairs_depth rest]
end

/-- An object read back is as sound and as deep as what was written. -/
theorem jsonbDict_sound {d : Dict} (h : Json.Sound (.obj d)) : Json.Sound (.obj (jsonbDict d)) :=
  jsonbValue_sound h

theorem jsonbDict_depth (d : Dict) : Json.depth (.obj (jsonbDict d)) = Json.depth (.obj d) :=
  jsonbValue_depth (.obj d)

end EventPipeline.Postgres
