import EsscherMarket.Lib.IsoFormat
import EsscherMarket.Lib.PyJsonRoundTrip

/-!
# Texts with lone surrogates as plain values

A reader that refuses lone surrogates in its own fields sees no difference when each of them is
replaced by a character that no field accepts: `PyJson.replaced` takes `U+0000`.
-/

namespace EsscherMarket.Lib

/-- The text with `U+0000` for each lone surrogate. -/
def PyText.replaced (t : PyText) : String := String.ofList (t.map Char.ofNat)

theorem PyText.replaced_of (s : String) : (PyText.of s).replaced = s := by
  have hmap : (PyText.of s).map Char.ofNat = s.toList := by
    rw [PyText.of, List.map_map]
    exact (List.map_congr_left fun c _ => Char.ofNat_toNat c).trans (List.map_id _)
  rw [PyText.replaced, hmap, String.ofList_toList]

/-- Every integer in the value is below a power of ten. -/
inductive Json.ShortInts (digits : Nat) : Json → Prop where
  | null : ShortInts digits .null
  | bool (b : Bool) : ShortInts digits (.bool b)
  | int (n : Int) (h : n.natAbs < 10 ^ digits) : ShortInts digits (.int n)
  | real (literal : String) : ShortInts digits (.real literal)
  | str (s : String) : ShortInts digits (.str s)
  | arr (items : List Json) (h : ∀ v ∈ items, ShortInts digits v) : ShortInts digits (.arr items)
  | obj (fields : List (String × Json)) (h : ∀ kv ∈ fields, ShortInts digits kv.2) :
      ShortInts digits (.obj fields)

theorem Json.ShortInts.get {digits : Nat} {v : Json} (h : ShortInts digits v) (key : String) :
    ShortInts digits (v.get key) := by
  cases h with
  | obj fields h =>
    rw [Json.get, Json.field?]
    cases hfind : fields.find? fun kv => kv.1 == key with
    | none => exact .null
    | some kv => exact h kv (List.mem_of_find?_eq_some hfind)
  | _ => exact .null

namespace PyJson

mutual

/-- The value with `U+0000` for each lone surrogate. -/
def replaced : PyJson → Json
  | .null => .null
  | .bool b => .bool b
  | .int n => .int n
  | .float literal => .real literal
  | .str t => .str t.replaced
  | .arr items => .arr (replacedItems items)
  | .obj fields => .obj (replacedFields fields)

def replacedItems : List PyJson → List Json
  | [] => []
  | v :: rest => replaced v :: replacedItems rest

def replacedFields : List (PyText × PyJson) → List (String × Json)
  | [] => []
  | (k, v) :: rest => (k.replaced, replaced v) :: replacedFields rest

end

theorem replacedItems_eq (items : List PyJson) : replacedItems items = items.map replaced := by
  induction items with
  | nil => rfl
  | cons v rest ih => rw [replacedItems, List.map_cons, ih]

theorem replacedFields_eq (fields : List (PyText × PyJson)) :
    replacedFields fields = fields.map fun kv => (kv.1.replaced, kv.2.replaced) := by
  induction fields with
  | nil => rfl
  | cons kv rest ih =>
    obtain ⟨k, v⟩ := kv
    rw [replacedFields, List.map_cons, ih]

/-- A value without lone surrogates stays as it is. -/
theorem replaced_ofJson (v : Json) : (ofJson v).replaced = v := by
  induction v using Json.induct with
  | hstr s => rw [ofJson, replaced, PyText.replaced_of]
  | harr items ih =>
    rw [ofJson, replaced, ofItems_eq, replacedItems_eq, List.map_map]
    exact congrArg Json.arr ((List.map_congr_left ih).trans (List.map_id _))
  | hobj fields ih =>
    rw [ofJson, replaced, ofFields_eq, replacedFields_eq, List.map_map]
    refine congrArg Json.obj ((List.map_congr_left fun kv hkv => ?_).trans (List.map_id _))
    show ((PyText.of kv.1).replaced, (ofJson kv.2).replaced) = kv
    rw [PyText.replaced_of, ih kv hkv]
  | _ => rfl

/-! ### Integers of a text that was read -/

theorem readNumber_short {cs rest : List Char} {v : PyJson} (h : readNumber cs = .ok (v, rest)) :
    v.replaced.ShortInts maxDigits := by
  have hwhole : ∀ cs : List Char, ∀ c ∈ (spanWhole cs).1, c.isDigit = true := by
    intro cs c hc
    unfold spanWhole at hc
    split at hc
    · rw [List.mem_singleton.mp hc]
      decide
    · rw [spanDigits, List.span_eq_takeWhile_dropWhile] at hc
      exact List.mem_takeWhile_imp hc
  unfold readNumber at h
  have hlt : ∀ cs, digitsValue (spanWhole cs).1 < 10 ^ (spanWhole cs).1.length :=
    fun cs => digitsValue_lt (hwhole cs)
  -- the sign comes first, then the three parts
  split at h
  simp only [] at h
  split at h
  · cases h
  split at h
  · split at h
    · cases h
    · rename_i hdigits
      cases h
      refine .int _ ?_
      have hpow := Nat.pow_le_pow_right (show 0 < 10 by decide) (Nat.not_lt.mp hdigits)
      split <;> simp only [Int.natAbs_neg, Int.natAbs_natCast] <;>
        exact lt_of_lt_of_le (hlt _) hpow
  · cases h
    exact .real _

theorem mem_dictOf {fields : List (PyText × PyJson)} {kv : PyText × PyJson}
    (h : kv ∈ dictOf fields) : kv ∈ fields := by
  have hfold : ∀ (more held : List (PyText × PyJson)), kv ∈ more.foldl (fun held kv =>
      if held.any fun item => item.1 == kv.1 then
        held.map fun item => if item.1 == kv.1 then kv else item
      else held ++ [kv]) held → kv ∈ held ∨ kv ∈ more := by
    intro more
    induction more with
    | nil => exact fun held h => .inl h
    | cons kw rest ih =>
      intro held h
      rw [List.foldl_cons] at h
      rcases ih _ h with h | h
      · split at h
        · obtain ⟨item, hitem, heq⟩ := List.mem_map.mp h
          split at heq
          · exact .inr (heq ▸ List.mem_cons_self)
          · exact .inl (heq ▸ hitem)
        · rcases List.mem_append.mp h with h | h
          · exact .inl h
          · exact .inr (List.mem_singleton.mp h ▸ List.mem_cons_self)
      · exact .inr (List.mem_cons_of_mem kw h)
  rcases hfold fields [] h with h | h
  · cases h
  · exact h

theorem objectOf_short {hooks : LoadHooks} {fields : List (PyText × PyJson)} {v : PyJson}
    (hfields : ∀ kv ∈ fields, kv.2.replaced.ShortInts maxDigits) (h : objectOf hooks fields = .ok v) :
    v.replaced.ShortInts maxDigits := by
  have hobj : ∀ held : List (PyText × PyJson), (∀ kv ∈ held, kv ∈ fields) →
      (PyJson.obj held).replaced.ShortInts maxDigits := by
    intro held hheld
    rw [replaced, replacedFields_eq]
    refine .obj _ fun kw hkw => ?_
    obtain ⟨kv, hkv, rfl⟩ := List.mem_map.mp hkw
    exact hfields kv (hheld kv hkv)
  rw [objectOf] at h
  split at h
  · split at h
    · cases h
      exact hobj _ fun kv hkv => hkv
    · cases h
  · cases h
    exact hobj _ fun kv hkv => mem_dictOf hkv

/-- What the three readers return with this much fuel. -/
def ReadsShort (hooks : LoadHooks) (fuel : Nat) : Prop :=
  (∀ cs v rest, readValue hooks fuel cs = .ok (v, rest) → v.replaced.ShortInts maxDigits) ∧
  (∀ cs vs rest, readItems hooks fuel cs = .ok (vs, rest) →
    ∀ v ∈ vs, v.replaced.ShortInts maxDigits) ∧
  (∀ cs fields rest, readFields hooks fuel cs = .ok (fields, rest) →
    ∀ kv ∈ fields, kv.2.replaced.ShortInts maxDigits)

theorem readWord_short {word : String} {v w : PyJson} {cs rest : List Char}
    (hw : w.replaced.ShortInts maxDigits) (h : readWord word w cs = .ok (v, rest)) :
    v.replaced.ShortInts maxDigits := by
  rw [readWord] at h
  split at h
  · cases h
    exact hw
  · cases h

theorem readConstant_short {hooks : LoadHooks} {word : String} {v : PyJson} {cs rest : List Char}
    (h : readConstant hooks word cs = .ok (v, rest)) : v.replaced.ShortInts maxDigits := by
  rw [readConstant] at h
  split at h
  · split at h
    · cases h
      exact .real _
    · cases h
  · cases h

theorem except_map_eq_ok {ε α β : Type} {x : Except ε α} {g : α → β} {b : β} :
    x.map g = .ok b ↔ ∃ a, x = .ok a ∧ g a = b := by
  cases x <;> simp [Except.map]

theorem readsShort_value {hooks : LoadHooks} {fuel : Nat} (ih : ReadsShort hooks fuel)
    {cs rest : List Char} {v : PyJson} (h : readValue hooks (fuel + 1) cs = .ok (v, rest)) :
    v.replaced.ShortInts maxDigits := by
  obtain ⟨-, hitems, hfields⟩ := ih
  cases cs with
  | nil => cases h
  | cons c cs =>
    rw [readValue] at h
    split at h
    · obtain ⟨r, -, h⟩ := except_map_eq_ok.mp h
      cases h
      exact .str _
    split at h
    · split at h
      · cases h
        exact .arr _ fun w hw => by cases hw
      · obtain ⟨r, hr, h⟩ := except_map_eq_ok.mp h
        cases h
        rw [replaced, replacedItems_eq]
        refine .arr _ fun w hw => ?_
        obtain ⟨u, hu, rfl⟩ := List.mem_map.mp hw
        exact hitems _ _ _ hr u hu
    split at h
    · split at h
      · cases h
      · split at h
        · obtain ⟨w, hw, h⟩ := except_map_eq_ok.mp h
          cases h
          exact objectOf_short (fun kv hkv => by cases hkv) hw
        · obtain ⟨r, hr, h⟩ := except_bind_eq_ok.mp h
          obtain ⟨w, hw, h⟩ := except_map_eq_ok.mp h
          cases h
          exact objectOf_short (hfields _ _ _ hr) hw
    split at h
    · exact readWord_short .null h
    split at h
    · exact readWord_short (.bool true) h
    split at h
    · exact readWord_short (.bool false) h
    split at h
    · exact readConstant_short h
    split at h
    · exact readConstant_short h
    split at h
    · exact readConstant_short h
    exact readNumber_short h

theorem readsShort_items {hooks : LoadHooks} {fuel : Nat} (ih : ReadsShort hooks fuel)
    {cs rest : List Char} {vs : List PyJson} (h : readItems hooks (fuel + 1) cs = .ok (vs, rest)) :
    ∀ v ∈ vs, v.replaced.ShortInts maxDigits := by
  obtain ⟨hvalue, hitems, -⟩ := ih
  rw [readItems] at h
  obtain ⟨⟨v, after⟩, hv, h⟩ := except_bind_eq_ok.mp h
  have hhead := hvalue _ _ _ hv
  dsimp only at h
  split at h
  · cases h
    exact List.forall_mem_singleton.mpr hhead
  · obtain ⟨⟨more, after⟩, hmore, h⟩ := except_bind_eq_ok.mp h
    cases h
    exact List.forall_mem_cons.mpr ⟨hhead, hitems _ _ _ hmore⟩
  · cases h

theorem readsShort_fields {hooks : LoadHooks} {fuel : Nat} (ih : ReadsShort hooks fuel)
    {cs rest : List Char} {fields : List (PyText × PyJson)}
    (h : readFields hooks (fuel + 1) cs = .ok (fields, rest)) :
    ∀ kv ∈ fields, kv.2.replaced.ShortInts maxDigits := by
  obtain ⟨hvalue, -, hfields⟩ := ih
  cases cs with
  | nil => cases h
  | cons quote cs =>
    rw [readFields] at h
    split at h
    · cases h
    obtain ⟨⟨key, after⟩, -, h⟩ := except_bind_eq_ok.mp h
    dsimp only at h
    split at h
    · obtain ⟨⟨v, after⟩, hv, h⟩ := except_bind_eq_ok.mp h
      have hhead := hvalue _ _ _ hv
      dsimp only at h
      split at h
      · cases h
      · split at h
        · cases h
          exact List.forall_mem_singleton.mpr hhead
        · split at h
          · obtain ⟨⟨more, after⟩, hmore, h⟩ := except_bind_eq_ok.mp h
            cases h
            exact List.forall_mem_cons.mpr ⟨hhead, hfields _ _ _ hmore⟩
          · cases h
    · cases h

theorem readsShort (hooks : LoadHooks) (fuel : Nat) : ReadsShort hooks fuel := by
  induction fuel with
  | zero =>
    refine ⟨fun cs v rest h => ?_, fun cs vs rest h => ?_, fun cs fields rest h => ?_⟩
    · rw [readValue] at h
      cases h
    · rw [readItems] at h
      cases h
    · rw [readFields] at h
      cases h
  | succ fuel ih =>
    exact ⟨fun _ _ _ => readsShort_value ih, fun _ _ _ => readsShort_items ih,
      fun _ _ _ => readsShort_fields ih⟩

/-- No integer of a text that was read has more digits than are converted. -/
theorem shortInts_of_loads {hooks : LoadHooks} {raw : List UInt8} {v : PyJson}
    (h : loads hooks raw = .ok v) : v.replaced.ShortInts maxDigits := by
  simp only [loads, except_bind_eq_ok, throwIf_eq_ok, except_pure_eq_ok] at h
  obtain ⟨_, -, _, -, ⟨w, rest⟩, hread, _, -, rfl⟩ := h
  exact (readsShort hooks _).1 _ _ _ hread

/-! ### Fields -/

theorem get_ofJson (v : Json) (key : String) : (ofJson v).get key = ofJson (v.get key) := by
  rw [get, field?_ofJson, Json.get]
  cases v.field? key with
  | none => rfl
  | some w => rfl

theorem shortInts_get {digits : Nat} {v : PyJson} (h : v.replaced.ShortInts digits)
    (key : String) : (v.get key).replaced.ShortInts digits := by
  cases v with
  | obj fields =>
    rw [replaced, replacedFields_eq] at h
    rw [get, field?]
    cases hfind : fields.find? fun kv => kv.1 == PyText.of key with
    | none => exact .null
    | some kv =>
      cases h with
      | obj _ hall => exact hall _ (List.mem_map_of_mem (List.mem_of_find?_eq_some hfind))
  | _ => exact .null

end PyJson

end EsscherMarket.Lib
