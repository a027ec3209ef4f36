import EsscherMarket.Lib.JsonRoundTrip

/-!
# Canonical formats

A format writes a value as an object with sorted keys, and reads a byte string only if it is what
the value that is read would be written as.
-/

namespace EsscherMarket.Lib.Json

/-! ### Reading one value -/

def readText (accepted : String → Bool) : Json → Option String
  | .str s => if accepted s then some s else none
  | _ => none

def readBool : Json → Option Bool
  | .bool b => some b
  | _ => none

/-- `type(value) is int`. -/
def readInt : Json → Option Int
  | .int n => some n
  | _ => none

def readMember {α : Type} (value : α → String) (members : List α) : Json → Option α
  | .str s => members.find? fun m => value m == s
  | _ => none

def readList {α : Type} (read : Json → Option α) : Json → Option (List α)
  | .arr items => items.mapM read
  | _ => none

/-- A value or `None`. -/
def readNullable {α : Type} (read : Json → Option α) : Json → Option (Option α)
  | .null => some none
  | v => (read v).map some

section Values

variable {s : String}

theorem readText_str {accepted : String → Bool} (h : accepted s = true) :
    readText accepted (.str s) = some s := if_pos h

theorem mapM_eq_some {α β : Type} {f : α → Option β} {xs : List α} {g : α → β}
    (h : ∀ x ∈ xs, f x = some (g x)) : xs.mapM f = some (xs.map g) := by
  induction xs with
  | nil => rfl
  | cons x rest ih =>
    rw [List.mapM_cons, h x List.mem_cons_self, ih fun y hy => h y (List.mem_cons_of_mem x hy)]
    rfl

theorem readList_map {α β : Type} {read : Json → Option β} {write : α → Json} {g : α → β}
    {xs : List α} (h : ∀ x ∈ xs, read (write x).sorted = some (g x)) :
    readList read (Json.arr (xs.map write)).sorted = some (xs.map g) := by
  rw [sorted, sortedItems_eq, readList, List.map_map, List.mapM_map]
  exact mapM_eq_some h

theorem readList_texts {accepted : String → Bool} {xs : List String}
    (h : xs.all accepted = true) :
    readList (readText accepted) (Json.arr (xs.map .str)).sorted = some xs := by
  have hitems := @readList_map String String (readText accepted) .str id xs
    fun x hx => readText_str (List.all_eq_true.mp h x hx)
  rwa [List.map_id] at hitems

end Values

/-! ### Objects -/

/-- The value of a key, from the first field on. -/
theorem get_cons (k : String) (v : Json) (rest : List (String × Json)) (key : String) :
    (Json.obj ((k, v) :: rest)).get key = if k = key then v else (Json.obj rest).get key := by
  by_cases h : k = key
  · rw [if_pos h, Json.get, Json.field?, List.find?_cons, beq_iff_eq.mpr h]
    rfl
  · rw [if_neg h, Json.get, Json.field?, List.find?_cons, beq_eq_false_iff_ne.mpr h]
    rfl

theorem sorted_str (s : String) : (Json.str s).sorted = .str s := rfl

theorem sorted_bool (b : Bool) : (Json.bool b).sorted = .bool b := rfl

theorem sorted_int (n : Int) : (Json.int n).sorted = .int n := rfl

theorem sorted_null : Json.null.sorted = .null := rfl

theorem wellFormed_str (s : String) : (Json.str s).wellFormed = true := rfl

theorem wellFormed_int (n : Int) : (Json.int n).wellFormed = true := rfl

theorem wellFormed_bool (b : Bool) : (Json.bool b).wellFormed = true := rfl

theorem wellFormed_null : Json.null.wellFormed = true := rfl

theorem wellFormed_texts (xs : List String) : (Json.arr (xs.map .str)).wellFormed = true := by
  refine wellFormed_arr.mpr fun v hv => ?_
  obtain ⟨s, -, rfl⟩ := List.mem_map.mp hv
  rfl

/-! ### Formats -/

structure Format (α : Type) where
  /-- The keys of the object. -/
  keys : List String
  /-- The object that a value is written as. -/
  payload : α → Json
  /-- The value of an object with these keys. -/
  read : Json → Option α

namespace Format

variable {α : Type} (F : Format α)

def encode (a : α) : List UInt8 := (F.payload a).canonicalBytes

def decode (raw : List UInt8) : Option α := do
  let v ← loadsUnique raw
  if v.hasKeys F.keys then
    let a ← F.read v
    if F.encode a = raw then some a else none
  else none

variable {F} {raw : List UInt8} {a b : α}

/-- What is read was written so. -/
theorem encode_of_decode (h : F.decode raw = some a) : F.encode a = raw := by
  rw [decode] at h
  cases hloads : loadsUnique raw with
  | none =>
    rw [hloads] at h
    cases h
  | some v =>
    rw [hloads] at h
    simp only [Option.bind_eq_bind, Option.bind_some] at h
    split_ifs at h with hkeys
    obtain ⟨a', -, h⟩ := Option.bind_eq_some_iff.mp h
    split_ifs at h with hbytes
    cases h
    exact hbytes

theorem read_of_decode (h : F.decode raw = some a) : ∃ v, loadsUnique raw = some v ∧
    v.hasKeys F.keys = true ∧ F.read v = some a := by
  rw [decode] at h
  cases hloads : loadsUnique raw with
  | none =>
    rw [hloads] at h
    cases h
  | some v =>
    rw [hloads] at h
    simp only [Option.bind_eq_bind, Option.bind_some] at h
    split_ifs at h with hkeys
    obtain ⟨a', hread, h⟩ := Option.bind_eq_some_iff.mp h
    split_ifs at h
    cases h
    exact ⟨v, rfl, hkeys, hread⟩

/-- What is written is read: as what its object is read as, if that is written the same. -/
theorem decode_encode (hwell : (F.payload a).wellFormed = true)
    (hkeys : (F.payload a).hasKeys F.keys = true)
    (hread : ∀ v : Json, (∀ key, v.get key = ((F.payload a).get key).sorted) → F.read v = some b)
    (hsame : F.payload b = F.payload a) : F.decode (F.encode a) = some b := by
  have hloads : loadsUnique (F.encode a) = some (F.payload a).sorted :=
    loadsWith_canonicalBytes hwell .unique
  have hvalue := hread _ (get_sorted hwell)
  have hbytes : F.encode b = F.encode a := by rw [encode, encode, hsame]
  rw [decode, hloads]
  simp only [Option.bind_eq_bind, Option.bind_some, hasKeys_sorted, hkeys, if_true, hvalue, hbytes]

end Format

end EsscherMarket.Lib.Json
