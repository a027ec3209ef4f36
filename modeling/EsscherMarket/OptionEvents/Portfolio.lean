import Mathlib
import EsscherMarket.Lib.JsonFormat
import EsscherMarket.Lib.PyJsonReplaced
import EsscherMarket.OptionEvents.Records

/-!
# The two readers of a positions payload

`build_portfolio_observation` of `sourcedata/alpaca_option_events.py` makes an observation of a
positions payload, and `_nonzero_position_count` of `runtime/paper_mcp_composition.py` counts its
rows.  Both convert the quantity of a row alike; only the count looks at whether it is finite.
-/

namespace EsscherMarket.OptionEvents

open Lib

/-! ### The rows of a payload -/

/-- `json.loads(raw.decode("utf-8"))` with `_validate_page_items`, or with `_position_items`: both
take a list of objects and nothing else. -/
def positionRows (raw : List UInt8) : Option (List PyJson) :=
  match PyJson.loads ⟨false, true⟩ raw with
  | .ok (.arr rows) => if rows.all PyJson.isObject then some rows else none
  | _ => none

variable (f : Json.FloatRepr)

/-- `Decimal(str(item.get("qty")))`. -/
def rowQuantity (row : PyJson) : Option Decimal := ((row.get "qty").pyStr f).bind Decimal.parse

/-! ### `build_portfolio_observation` -/

/-- `_POSITION_REQUIRED_FIELDS`. -/
def positionRequiredFields : List String := ["asset_class", "qty", "symbol"]

/-- `_ASSET_CLASS_BY_RAW`. -/
def rawAssetClass (v : PyJson) : Option AssetClass :=
  if v.isText "us_option" then some .option
  else if v.isText "us_equity" then some .equity
  else none

/-- The position of one row, or `some none` for a row that is left out. -/
def rowPosition (row : PyJson) : Option (Option PortfolioPosition) :=
  if positionRequiredFields.all (fun name => (row.field? name).isSome) = false then none
  else
    (rawAssetClass (row.get "asset_class")).bind fun assetClass =>
      match row.get "symbol" with
      | .str symbol =>
        if symbol = [] then none
        else
          (rowQuantity f row).bind fun quantity =>
            -- a quantity that is not finite is left out like a zero
            if quantity.isFinite = false ∨ quantity.toRat = 0 then some none
            else if assetClass = .option ∧ quantity.toRat.den ≠ 1 then none
            -- no observation is created for a symbol with a lone surrogate
            else symbol.toString?.map fun text => some ⟨assetClass, text, quantity⟩
      | _ => none

/-- The other arguments of `build_portfolio_observation`. -/
structure ObservationArguments where
  accountFingerprintSha256 : String
  executionProtocolSha256 : String
  observedAt : Int
  evidenceClass : EvidenceClass

def ObservationArguments.check (a : ObservationArguments) : Bool :=
  isDigest a.accountFingerprintSha256 && isDigest a.executionProtocolSha256 &&
    isInstant a.observedAt

/-- `sorted(positions, key=_position_key)`. -/
def orderedPositions (positions : List PortfolioPosition) : List PortfolioPosition :=
  positions.mergeSort fun p q => decide (toLex p.key ≤ toLex q.key)

/-- `OptionPortfolioObservation.create`; `none` where it raises. -/
def OptionPortfolioObservation.create (fields : ObservationFields) :
    Option OptionPortfolioObservation :=
  let fields := { fields with positions := orderedPositions fields.positions }
  if h : fields.check = true then
    -- the digest is taken of the normalized quantities
    if fields.positions.all fun p => isWritable p.quantity then some ⟨fields, h⟩ else none
  else none

/-- `build_portfolio_observation`; `none` where it raises. -/
def buildPortfolioObservation (a : ObservationArguments) (raw : List UInt8) :
    Option OptionPortfolioObservation := do
  let rows ← positionRows raw
  let positions ← rows.mapM (rowPosition f)
  OptionPortfolioObservation.create {
    accountFingerprintSha256 := a.accountFingerprintSha256
    executionProtocolSha256 := a.executionProtocolSha256
    observedAt := a.observedAt
    positions := positions.filterMap id
    sourcePayloadSha256 := Sha256.hexdigest raw
    evidenceClass := a.evidenceClass }

/-! ### `_nonzero_position_count` -/

/-- One row counts; `none` where it is rejected. -/
def rowCounts (row : PyJson) : Option Bool :=
  (rowQuantity f row).bind fun quantity =>
    if quantity.isFinite = false then none else some (decide (quantity.toRat ≠ 0))

/-- `_nonzero_position_count`; `none` where it raises. -/
def nonzeroPositionCount (raw : List UInt8) : Option Nat := do
  let rows ← positionRows raw
  let counts ← rows.mapM (rowCounts f)
  return counts.countP id

/-! ### What the observation needs -/

/-- No quantity of the payload is `NaN` or infinite. -/
def FiniteQuantities (raw : List UInt8) : Prop :=
  ∀ rows, positionRows raw = some rows → ∀ row ∈ rows, ∀ d, rowQuantity f row = some d →
    d.isFinite = true

def IsNonzero (row : PyJson) : Prop := ∃ d, rowQuantity f row = some d ∧ d.toRat ≠ 0

/-- What an observation asks of a row beyond a quantity. -/
structure AcceptableRow (row : PyJson) : Prop where
  fields : ∀ name ∈ positionRequiredFields, (row.field? name).isSome = true
  assetClass : (rawAssetClass (row.get "asset_class")).isSome = true
  symbol : ∃ symbol, row.get "symbol" = .str symbol ∧ symbol ≠ []
  position : ∀ d, rowQuantity f row = some d → d.toRat ≠ 0 →
    (rawAssetClass (row.get "asset_class") = some .option → d.toRat.den = 1) ∧
      (∃ symbol, row.get "symbol" = .str (PyText.of symbol) ∧ isSymbol symbol = true) ∧
      isWritable d = true

/-- What an observation asks beyond the quantities: rows of the supported classes with symbols, with
one row at most for a class and a symbol. -/
structure Acceptable (a : ObservationArguments) (rows : List PyJson) : Prop where
  arguments : a.check = true
  each : ∀ row ∈ rows, AcceptableRow f row
  distinct : List.Pairwise (fun row row' => IsNonzero f row →
    IsNonzero f row' → rawAssetClass (row.get "asset_class") = rawAssetClass (row'.get "asset_class") →
      row.get "symbol" ≠ row'.get "symbol") rows

structure IsPositionOf (p : PortfolioPosition) (row : PyJson) : Prop where
  assetClass : rawAssetClass (row.get "asset_class") = some p.assetClass
  symbol : row.get "symbol" = .str (PyText.of p.symbol)
  quantity : rowQuantity f row = some p.quantity

variable {f} {a : ObservationArguments} {raw : List UInt8} {row : PyJson} {rows : List PyJson}

/-! ### One row -/

theorem pyText_of_toString? {t : PyText} {s : String} (h : t.toString? = some s) :
    PyText.of s = t := by
  rw [PyText.toString?] at h
  split_ifs at h with hvalid
  cases h
  rw [PyText.of, String.toList_ofList, List.map_map]
  refine (List.map_congr_left fun n hn => ?_).trans (List.map_id t)
  have hn : n.isValidChar := of_decide_eq_true (List.all_eq_true.mp hvalid n hn)
  rw [Function.comp_apply, id_eq, Char.ofNat, dif_pos hn]
  rfl

theorem rowPosition_eq_some {p? : Option PortfolioPosition} (h : rowPosition f row = some p?) :
    ∃ assetClass symbol quantity, rawAssetClass (row.get "asset_class") = some assetClass ∧
      row.get "symbol" = .str symbol ∧ rowQuantity f row = some quantity ∧
      ((quantity.isFinite = false ∨ quantity.toRat = 0) ∧ p? = none ∨
        quantity.toRat ≠ 0 ∧ ∃ text, symbol = PyText.of text ∧
          p? = some ⟨assetClass, text, quantity⟩) := by
  rw [rowPosition] at h
  split_ifs at h with hfields
  obtain ⟨assetClass, hclass, h⟩ := Option.bind_eq_some_iff.mp h
  split at h
  · rename_i symbol hsymbol
    split_ifs at h with hempty
    obtain ⟨quantity, hquantity, h⟩ := Option.bind_eq_some_iff.mp h
    refine ⟨assetClass, symbol, quantity, hclass, hsymbol, hquantity, ?_⟩
    split_ifs at h with hzero hwhole
    · exact .inl ⟨hzero, (Option.some.inj h).symm⟩
    · obtain ⟨text, htext, rfl⟩ := Option.map_eq_some_iff.mp h
      rw [not_or] at hzero
      exact .inr ⟨hzero.2, text, (pyText_of_toString? htext).symm, rfl⟩
  · cases h

theorem isPositionOf_of_rowPosition {p : PortfolioPosition}
    (h : rowPosition f row = some (some p)) : IsPositionOf f p row ∧ p.quantity.toRat ≠ 0 := by
  obtain ⟨assetClass, symbol, quantity, hclass, hsymbol, hquantity, ⟨-, hnone⟩ | ⟨hne, text, rfl,
    hp⟩⟩ := rowPosition_eq_some h
  · cases hnone
  · cases hp
    exact ⟨⟨hclass, hsymbol, hquantity⟩, hne⟩

theorem rowCounts_of_rowPosition {p? : Option PortfolioPosition}
    (hfinite : ∀ d, rowQuantity f row = some d → d.isFinite = true)
    (h : rowPosition f row = some p?) : rowCounts f row = some p?.isSome := by
  obtain ⟨assetClass, symbol, quantity, -, -, hquantity, hcase⟩ := rowPosition_eq_some h
  have hfin := hfinite quantity hquantity
  rw [rowCounts, hquantity, Option.bind_some, hfin, if_neg (by simp)]
  rcases hcase with ⟨hzero | hzero, rfl⟩ | ⟨hne, text, -, rfl⟩
  · rw [hfin] at hzero
    cases hzero
  · rw [hzero]
    rfl
  · rw [decide_eq_true hne]
    rfl

theorem rowPosition_of_acceptable (h : AcceptableRow f row)
    (hfinite : ∀ d, rowQuantity f row = some d → d.isFinite = true)
    (hquantity : (rowQuantity f row).isSome = true) :
    ∃ p?, rowPosition f row = some p? ∧
      ∀ p ∈ p?, p.check = true ∧ isWritable p.quantity = true := by
  obtain ⟨d, hd⟩ := Option.isSome_iff_exists.mp hquantity
  obtain ⟨assetClass, hclass⟩ := Option.isSome_iff_exists.mp h.assetClass
  obtain ⟨symbol, hsymbol, hempty⟩ := h.symbol
  have hfields : positionRequiredFields.all (fun name => (row.field? name).isSome) = true :=
    List.all_eq_true.mpr h.fields
  rw [rowPosition, hfields, if_neg (by simp), hclass, Option.bind_some, hsymbol]
  simp only [if_neg hempty, hd, Option.bind_some]
  by_cases hzero : d.isFinite = false ∨ d.toRat = 0
  · exact ⟨none, if_pos hzero, fun p hp => by cases hp⟩
  · rw [if_neg hzero]
    rw [not_or] at hzero
    obtain ⟨hwhole, ⟨text, htext, hupper⟩, hwritable⟩ := h.position d hd hzero.2
    rw [hsymbol, PyJson.str.injEq] at htext
    subst htext
    have hden : ¬ (assetClass = .option ∧ d.toRat.den ≠ 1) :=
      fun hc => hc.2 (hwhole (hclass.trans (congrArg some hc.1)))
    rw [if_neg hden, PyText.toString?_of]
    refine ⟨_, rfl, ?_⟩
    rintro p ⟨⟩
    refine ⟨?_, hwritable⟩
    have hclassCheck : (assetClass != .option || decide (d.toRat.den = 1)) = true := by
      by_cases hoption : assetClass = .option
      · rw [decide_eq_true (hwhole (hclass.trans (congrArg some hoption))), Bool.or_true]
      · rw [bne_iff_ne.mpr hoption, Bool.true_or]
    rw [PortfolioPosition.check, hfinite d hd, hclassCheck, hupper, decide_eq_true hzero.2]
    rfl

/-! ### A payload -/

theorem forall₂_of_mapM {α β : Type} {g : α → Option β} {as : List α} {bs : List β}
    (h : as.mapM g = some bs) : List.Forall₂ (fun a b => g a = some b) as bs := by
  induction as generalizing bs with
  | nil =>
    cases h
    exact .nil
  | cons c rest ih =>
    rw [List.mapM_cons] at h
    obtain ⟨b, hb, h⟩ := Option.bind_eq_some_iff.mp h
    obtain ⟨more, hmore, h⟩ := Option.bind_eq_some_iff.mp h
    cases h
    exact .cons hb (ih hmore)

theorem orderedPositions_perm (positions : List PortfolioPosition) :
    (orderedPositions positions).Perm positions := List.mergeSort_perm _ _

theorem positions_of_create {fields : ObservationFields} {o : OptionPortfolioObservation}
    (h : OptionPortfolioObservation.create fields = some o) :
    o.fields.positions.Perm fields.positions := by
  rw [OptionPortfolioObservation.create] at h
  split_ifs at h with hcheck hwritable
  cases h
  exact orderedPositions_perm fields.positions

theorem build_eq_some {o : OptionPortfolioObservation}
    (h : buildPortfolioObservation f a raw = some o) :
    ∃ rows found, positionRows raw = some rows ∧ rows.mapM (rowPosition f) = some found ∧
      o.fields.positions.Perm (found.filterMap id) := by
  obtain ⟨rows, hrows, h⟩ := Option.bind_eq_some_iff.mp h
  obtain ⟨found, hfound, h⟩ := Option.bind_eq_some_iff.mp h
  exact ⟨rows, found, hrows, hfound, positions_of_create h⟩

theorem counts_of_positions {found : List (Option PortfolioPosition)}
    (hfinite : ∀ row ∈ rows, ∀ d, rowQuantity f row = some d → d.isFinite = true)
    (h : rows.mapM (rowPosition f) = some found) :
    rows.mapM (rowCounts f) = some (found.map Option.isSome) := by
  induction rows generalizing found with
  | nil =>
    cases h
    rfl
  | cons row rest ih =>
    rw [List.mapM_cons] at h
    obtain ⟨p?, hp, h⟩ := Option.bind_eq_some_iff.mp h
    obtain ⟨more, hmore, h⟩ := Option.bind_eq_some_iff.mp h
    cases h
    rw [List.mapM_cons, rowCounts_of_rowPosition (hfinite row List.mem_cons_self) hp,
      ih (fun row' hrow' => hfinite row' (List.mem_cons_of_mem _ hrow')) hmore]
    rfl

theorem countP_isSome (found : List (Option PortfolioPosition)) :
    (found.map Option.isSome).countP id = (found.filterMap id).length := by
  induction found with
  | nil => rfl
  | cons p? rest ih =>
    cases p? with
    | none => simpa using ih
    | some p => simpa using ih

/-- On finite quantities the count is the number of positions that are built. -/
theorem count_of_build {o : OptionPortfolioObservation} (hfinite : FiniteQuantities f raw)
    (h : buildPortfolioObservation f a raw = some o) :
    nonzeroPositionCount f raw = some o.fields.positions.length := by
  obtain ⟨rows, found, hrows, hfound, hperm⟩ := build_eq_some h
  rw [nonzeroPositionCount, hrows, Option.bind_eq_bind, Option.bind_some,
    counts_of_positions (hfinite rows hrows) hfound, Option.bind_eq_bind, Option.bind_some,
    countP_isSome, hperm.length_eq]
  rfl

theorem mem_of_build {o : OptionPortfolioObservation} (hfinite : FiniteQuantities f raw)
    (h : buildPortfolioObservation f a raw = some o) (hrows : positionRows raw = some rows)
    (hmem : row ∈ rows) (hnonzero : IsNonzero f row) :
    ∃ p ∈ o.fields.positions, IsPositionOf f p row := by
  obtain ⟨rows', found, hrows', hfound, hperm⟩ := build_eq_some h
  cases hrows.symm.trans hrows'
  obtain ⟨p?, hp, hrow⟩ := Json.exists_of_forall₂ (forall₂_of_mapM hfound).flip hmem
  obtain ⟨d, hd, hne⟩ := hnonzero
  have hcounts := rowCounts_of_rowPosition (hfinite rows hrows row hmem) hrow
  rw [rowCounts, hd, Option.bind_some, hfinite rows hrows row hmem d hd, if_neg (by simp),
    decide_eq_true hne, Option.some.injEq, eq_comm] at hcounts
  obtain ⟨p, rfl⟩ := Option.isSome_iff_exists.mp hcounts
  refine ⟨p, hperm.mem_iff.mpr (List.mem_filterMap.mpr ⟨_, hp, rfl⟩), ?_⟩
  exact (isPositionOf_of_rowPosition hrow).1

theorem assetClass_value_inj {c d : AssetClass} (h : c.value = d.value) : c = d := by
  cases c <;> cases d
  · rfl
  · exact absurd h (by decide)
  · exact absurd h (by decide)
  · rfl

/-- What is built of acceptable rows can be observed. -/
theorem positions_of_acceptable (hrows : ∀ row ∈ rows, AcceptableRow f row)
    (hdistinct : rows.Pairwise fun row row' => IsNonzero f row → IsNonzero f row' →
      rawAssetClass (row.get "asset_class") = rawAssetClass (row'.get "asset_class") →
        row.get "symbol" ≠ row'.get "symbol")
    (hquantities : ∀ row ∈ rows, ∃ d, rowQuantity f row = some d ∧ d.isFinite = true) :
    ∃ found, rows.mapM (rowPosition f) = some found ∧
      (∀ p ∈ found.filterMap id, p.check = true ∧ isWritable p.quantity = true) ∧
      (found.filterMap id).Pairwise fun p q => p.key ≠ q.key := by
  induction rows with
  | nil => exact ⟨[], rfl, fun p hp => (by cases hp), .nil⟩
  | cons row rest ih =>
    rw [List.pairwise_cons] at hdistinct
    obtain ⟨d, hd, hfin⟩ := hquantities row List.mem_cons_self
    obtain ⟨p?, hp, hchecked⟩ := rowPosition_of_acceptable (hrows row List.mem_cons_self)
      (fun e he => Option.some.inj (hd.symm.trans he) ▸ hfin) (by rw [hd]; rfl)
    obtain ⟨found, hfound, hall, hkeys⟩ := ih
      (fun row' h => hrows row' (List.mem_cons_of_mem _ h)) hdistinct.2
      (fun row' h => hquantities row' (List.mem_cons_of_mem _ h))
    have hmapM : (row :: rest).mapM (rowPosition f) = some (p? :: found) := by
      rw [List.mapM_cons, hp, hfound]
      rfl
    cases p? with
    | none => exact ⟨_, hmapM, hall, hkeys⟩
    | some p =>
      refine ⟨_, hmapM, ?_, ?_⟩
      · intro q hq
        rcases List.mem_cons.mp hq with rfl | hq
        · exact hchecked q rfl
        · exact hall q hq
      · refine List.pairwise_cons.mpr ⟨fun q hq hkey => ?_, hkeys⟩
        obtain ⟨q?, hq?, rfl⟩ := List.mem_filterMap.mp hq
        obtain ⟨row', hrow', hbuilt⟩ := Json.exists_of_forall₂ (forall₂_of_mapM hfound) hq?
        obtain ⟨hprow, hpne⟩ := isPositionOf_of_rowPosition hp
        obtain ⟨hqrow, hqne⟩ := isPositionOf_of_rowPosition hbuilt
        obtain ⟨hclass, hsymbol⟩ := Prod.mk.inj hkey
        refine hdistinct.1 row' hrow' ⟨_, hprow.quantity, hpne⟩ ⟨_, hqrow.quantity, hqne⟩ ?_ ?_
        · rw [hprow.assetClass, hqrow.assetClass, assetClass_value_inj hclass]
        · rw [hprow.symbol, hqrow.symbol, hsymbol]

/-- What the count does not look at.  A payload of finite quantities with acceptable rows is
built. -/
theorem build_of_acceptable (hfinite : FiniteQuantities f raw) (hrows : positionRows raw = some rows)
    (h : Acceptable f a rows) (hcount : (nonzeroPositionCount f raw).isSome = true) :
    (buildPortfolioObservation f a raw).isSome = true := by
  obtain ⟨n, hcount⟩ := Option.isSome_iff_exists.mp hcount
  have hquantities : ∀ row ∈ rows, ∃ d, rowQuantity f row = some d ∧ d.isFinite = true := by
    intro row hrow
    rw [nonzeroPositionCount, hrows, Option.bind_eq_bind, Option.bind_some] at hcount
    obtain ⟨counts, hcounts, -⟩ := Option.bind_eq_some_iff.mp hcount
    obtain ⟨b, -, hb⟩ := Json.exists_of_forall₂ (forall₂_of_mapM hcounts).flip hrow
    obtain ⟨d, hd, -⟩ := Option.bind_eq_some_iff.mp hb
    exact ⟨d, hd, hfinite rows hrows row hrow d hd⟩
  obtain ⟨found, hfound, hall, hkeys⟩ := positions_of_acceptable h.each h.distinct hquantities
  have hperm := orderedPositions_perm (found.filterMap id)
  have hsorted : (orderedPositions (found.filterMap id)).Pairwise
      fun p q => toLex p.key ≤ toLex q.key := by
    have hpairwise := @List.pairwise_mergeSort PortfolioPosition
      (fun p q => decide (toLex p.key ≤ toLex q.key))
      (fun p q r hpq hqr => decide_eq_true ((of_decide_eq_true hpq).trans (of_decide_eq_true hqr)))
      (fun p q => by simpa using le_total (toLex p.key) (toLex q.key)) (found.filterMap id)
    exact hpairwise.imp fun hle => of_decide_eq_true hle
  have hstrict : (orderedPositions (found.filterMap id)).Pairwise
      fun p q => toLex p.key < toLex q.key := by
    have hne := (hperm.symm.pairwise_iff fun hpq hqp => hpq hqp.symm).mp hkeys
    exact (hsorted.and hne).imp fun hboth =>
      lt_of_le_of_ne hboth.1 fun heq => hboth.2 (toLex.injective heq)
  have hargs := h.arguments
  rw [ObservationArguments.check, Bool.and_eq_true, Bool.and_eq_true] at hargs
  rw [buildPortfolioObservation, hrows, Option.bind_eq_bind, Option.bind_some, hfound,
    Option.bind_eq_bind, Option.bind_some, OptionPortfolioObservation.create]
  have hcheck : ObservationFields.check {
      accountFingerprintSha256 := a.accountFingerprintSha256
      executionProtocolSha256 := a.executionProtocolSha256
      observedAt := a.observedAt
      positions := orderedPositions (found.filterMap id)
      sourcePayloadSha256 := Sha256.hexdigest raw
      evidenceClass := a.evidenceClass } = true := by
    have hchecked : (orderedPositions (found.filterMap id)).all PortfolioPosition.check = true :=
      List.all_eq_true.mpr fun p hp => (hall p (hperm.mem_iff.mp hp)).1
    have hsource : isDigest (Sha256.hexdigest raw) = true :=
      Sha256.isLowerHex_hexdigest raw
    rw [ObservationFields.check, hchecked, decide_eq_true hstrict, hargs.2]
    simp only [List.all_cons, List.all_nil, hargs.1.1, hargs.1.2, hsource, Bool.and_true]
  have hwritable : (orderedPositions (found.filterMap id)).all
      (fun p => isWritable p.quantity) = true :=
    List.all_eq_true.mpr fun p hp => (hall p (hperm.mem_iff.mp hp)).2
  dsimp only
  rw [dif_pos hcheck, if_pos hwritable]
  rfl

/-- What is built holds every row of a nonzero quantity, and the count is the number of positions;
where nothing is built, the count is refused or zero, or the payload is not acceptable. -/
theorem position_readers (f : Json.FloatRepr) (a : ObservationArguments) (raw : List UInt8)
    (hfinite : FiniteQuantities f raw) :
    (∀ o, buildPortfolioObservation f a raw = some o → ∀ rows, positionRows raw = some rows →
      ∀ row ∈ rows, IsNonzero f row → ∃ p ∈ o.fields.positions, IsPositionOf f p row) ∧
    (∀ o, buildPortfolioObservation f a raw = some o →
      nonzeroPositionCount f raw = some o.fields.positions.length) ∧
    (nonzeroPositionCount f raw = none ∨ nonzeroPositionCount f raw = some 0 →
      buildPortfolioObservation f a raw = none ∨
        ∃ o, buildPortfolioObservation f a raw = some o ∧ o.fields.positions = []) ∧
    (buildPortfolioObservation f a raw = none → nonzeroPositionCount f raw = none ∨
      ∃ rows, positionRows raw = some rows ∧ ¬ Acceptable f a rows) := by
  refine ⟨fun o h rows hrows row hrow hne => mem_of_build hfinite h hrows hrow hne,
    fun o h => count_of_build hfinite h, fun hcount => ?_, fun hnone => ?_⟩
  · cases hbuild : buildPortfolioObservation f a raw with
    | none => exact .inl rfl
    | some o =>
      have hlength := count_of_build hfinite hbuild
      rcases hcount with hcount | hcount
      · rw [hcount] at hlength
        cases hlength
      · rw [hcount, Option.some.injEq] at hlength
        exact .inr ⟨o, rfl, List.length_eq_zero_iff.mp hlength.symm⟩
  · by_contra hboth
    rw [not_or] at hboth
    have hsome := Option.isSome_iff_ne_none.mpr hboth.1
    obtain ⟨n, hn⟩ := Option.isSome_iff_exists.mp hsome
    obtain ⟨rows, hrows, -⟩ := Option.bind_eq_some_iff.mp hn
    have hacceptable : Acceptable f a rows := by
      by_contra hunacceptable
      exact hboth.2 ⟨rows, hrows, hunacceptable⟩
    have hbuilt := build_of_acceptable hfinite hrows hacceptable hsome
    rw [hnone] at hbuilt
    cases hbuilt

/-! ### One row -/

theorem loads_canonicalBytes_arr {items : List Json} (h : Json.Readable (.arr items))
    (hooks : LoadHooks) : PyJson.loads hooks (Json.arr items).canonicalBytes =
      .ok (PyJson.ofJson (Json.arr items).sorted) := by
  have hread := PyJson.reads_of_readable h.sorted hooks
    (2 * (Json.arr items).sorted.chars.length + 1) [] (by omega) (fun c hc => by cases hc)
  have hskip := PyJson.skipBlank_of_starts (PyJson.starts_of_readable h.sorted) []
  have hbom : (Json.arr items).sorted.chars.head? ≠ some (Char.ofNat 0xfeff) := by
    rw [Json.sorted, Json.chars, List.head?_cons]
    decide
  rw [List.append_nil] at hread hskip
  rw [PyJson.loads, Json.fromUTF8?_canonicalBytes]
  show (throwIf ((String.ofList (Json.arr items).sorted.chars).toList.head? = _)
    LoadError.malformed >>= fun _ => _) = _
  rw [String.toList_ofList, throwIf, if_neg hbom]
  show ((PyJson.readValue hooks (2 * (Json.arr items).sorted.chars.length + 1)
    (PyJson.skipBlank (Json.arr items).sorted.chars)).bind _) = _
  rw [hskip, hread]
  rfl

def rowsPayload (rows : List Json) : List UInt8 := (Json.arr rows).canonicalBytes

theorem positionRows_payload {fields : List (String × Json)} (h : Json.Readable (.obj fields)) :
    positionRows (rowsPayload [.obj fields]) = some [PyJson.ofJson (Json.obj fields).sorted] := by
  have hitems : ∀ v ∈ [Json.obj fields], Json.Readable v := by
    intro v hv
    rw [List.mem_singleton] at hv
    exact hv ▸ h
  rw [positionRows, rowsPayload, loads_canonicalBytes_arr (.arr _ hitems)]
  rfl

def oneContract (others : List (String × String)) : List (String × Json) :=
  ([("asset_class", "us_option"), ("qty", "1")] ++ others).map fun t => (t.1, .str t.2)

theorem readable_oneContract {others : List (String × String)}
    (hkeys : ((oneContract others).map Prod.fst).Nodup) :
    Json.Readable (.obj (oneContract others)) := by
  refine .obj _ hkeys fun kv hkv => ?_
  obtain ⟨t, -, rfl⟩ := List.mem_map.mp hkv
  exact .str t.2

def literalFloats : Json.FloatRepr := .literals

def someArguments : ObservationArguments where
  accountFingerprintSha256 := Runtime.July.sha 'a'
  executionProtocolSha256 := Runtime.July.sha 'b'
  observedAt := 0
  evidenceClass := .syntheticFixture

section OneContract

variable {symbol : List (String × String)}

theorem toRat_one : (Decimal.ofNat 1).toRat = 1 := by
  rw [Decimal.toRat_ofNat, Nat.cast_one]

theorem rowQuantity_oneContract (h : Json.Readable (.obj (oneContract symbol))) : rowQuantity literalFloats
    (PyJson.ofJson (Json.obj (oneContract symbol)).sorted) = some (.ofNat 1) := by
  have hqty : ("qty", Json.str "1") ∈ oneContract symbol :=
    List.mem_cons_of_mem _ List.mem_cons_self
  rw [rowQuantity, PyJson.get_ofJson_sorted h hqty, Json.sorted_str, PyJson.ofJson, PyJson.pyStr,
    PyText.toString?_of]
  rfl

theorem assetClass_oneContract (h : Json.Readable (.obj (oneContract symbol))) : rawAssetClass
    ((PyJson.ofJson (Json.obj (oneContract symbol)).sorted).get "asset_class") = some .option := by
  have hclass : ("asset_class", Json.str "us_option") ∈ oneContract symbol := List.mem_cons_self
  rw [PyJson.get_ofJson_sorted h hclass, Json.sorted_str, PyJson.ofJson, rawAssetClass]
  rfl

theorem finiteQuantities_oneContract (h : Json.Readable (.obj (oneContract symbol))) :
    FiniteQuantities literalFloats (rowsPayload [.obj (oneContract symbol)]) := by
  intro rows hrows row hrow d hd
  rw [positionRows_payload h, Option.some.injEq] at hrows
  subst hrows
  rw [List.mem_singleton] at hrow
  subst hrow
  rw [rowQuantity_oneContract h, Option.some.injEq] at hd
  exact hd ▸ rfl

theorem count_oneContract (h : Json.Readable (.obj (oneContract symbol))) :
    nonzeroPositionCount literalFloats (rowsPayload [.obj (oneContract symbol)]) = some 1 := by
  have hcounts : [PyJson.ofJson (Json.obj (oneContract symbol)).sorted].mapM
      (rowCounts literalFloats) = some [true] := by
    rw [List.mapM_cons, rowCounts, rowQuantity_oneContract h, Option.bind_some, if_neg (by decide),
      toRat_one]
    rfl
  rw [nonzeroPositionCount, positionRows_payload h, Option.bind_eq_bind, Option.bind_some, hcounts]
  rfl

end OneContract

theorem readable_spy : Json.Readable (.obj (oneContract [("symbol", "SPY")])) :=
  readable_oneContract (by decide)

/-- One contract of `SPY` is built. -/
theorem position_readers_demo : ∃ o, buildPortfolioObservation literalFloats someArguments
    (rowsPayload [.obj (oneContract [("symbol", "SPY")])]) = some o ∧
      o.fields.positions.length = 1 := by
  have hreaders := position_readers literalFloats someArguments
    (rowsPayload [.obj (oneContract [("symbol", "SPY")])])
    (finiteQuantities_oneContract readable_spy)
  have hcount := count_oneContract readable_spy
  have hsymbol : (PyJson.ofJson (Json.obj (oneContract [("symbol", "SPY")])).sorted).get
      "symbol" = .str (PyText.of "SPY") :=
    PyJson.get_ofJson_sorted readable_spy
      (List.mem_cons_of_mem _ (List.mem_cons_of_mem _ List.mem_cons_self))
  cases hbuild : buildPortfolioObservation literalFloats someArguments
    (rowsPayload [.obj (oneContract [("symbol", "SPY")])]) with
  | some o =>
    have hlength := hreaders.2.1 o hbuild
    rw [hcount, Option.some.injEq] at hlength
    exact ⟨o, rfl, hlength.symm⟩
  | none =>
    exfalso
    rcases hreaders.2.2.2 hbuild with hnone | ⟨rows, hrows, hunacceptable⟩
    · rw [hcount] at hnone
      cases hnone
    rw [positionRows_payload readable_spy, Option.some.injEq] at hrows
    subst hrows
    refine hunacceptable ⟨by decide, fun row hrow => ?_, List.pairwise_singleton _ _⟩
    rw [List.mem_singleton] at hrow
    subst hrow
    refine ⟨fun name hname => ?_, ?_, ⟨_, hsymbol, by decide⟩, fun d hd _ => ?_⟩
    · rw [PyJson.field?_ofJson, Json.field?_sorted readable_spy.wellFormed]
      simp only [positionRequiredFields, List.mem_cons, List.not_mem_nil, or_false] at hname
      rcases hname with rfl | rfl | rfl
      · rfl
      · rfl
      · rfl
    · rw [assetClass_oneContract readable_spy]
      rfl
    · rw [rowQuantity_oneContract readable_spy, Option.some.injEq] at hd
      subst hd
      rw [toRat_one]
      exact ⟨fun _ => rfl, ⟨"SPY", hsymbol, by decide⟩, by decide⟩

/-- What is built holds every row whose quantity is not zero, and on supported rows with whole
quantities the readers agree whether the account is flat. -/
structure ReadersAgree (f : Json.FloatRepr) (a : ObservationArguments) (raw : List UInt8) :
    Prop where
  holds : ∀ o, buildPortfolioObservation f a raw = some o → ∀ rows, positionRows raw = some rows →
    ∀ row ∈ rows, (∃ d, rowQuantity f row = some d ∧ (d.isFinite = false ∨ d.toRat ≠ 0)) →
      ∃ p ∈ o.fields.positions, IsPositionOf f p row
  flat : ∀ rows, positionRows raw = some rows →
    (∀ row ∈ rows, ∃ assetClass, rawAssetClass (row.get "asset_class") = some assetClass ∧
      ∀ d, rowQuantity f row = some d → assetClass = .option → d.toRat.den = 1) →
    ((buildPortfolioObservation f a raw = none ∨
        ∃ o, buildPortfolioObservation f a raw = some o ∧ o.fields.positions = []) ↔
      (nonzeroPositionCount f raw = none ∨ nonzeroPositionCount f raw = some 0))

theorem readable_unnamed : Json.Readable (.obj (oneContract [])) :=
  readable_oneContract (by decide)

/-- A row without a symbol counts, and is not built. -/
theorem unnamed_row_counts : ¬ ∀ f a raw, ReadersAgree f a raw := by
  intro h
  have hrows := positionRows_payload readable_unnamed
  have hflat := (h literalFloats someArguments (rowsPayload [.obj (oneContract [])])).flat _ hrows
  have hnone : buildPortfolioObservation literalFloats someArguments
      (rowsPayload [.obj (oneContract [])]) = none := by
    have hsymbol : (PyJson.ofJson (Json.obj (oneContract [])).sorted).field? "symbol" = none := by
      rw [PyJson.field?_ofJson, Json.field?_sorted readable_unnamed.wellFormed]
      rfl
    have hrow : rowPosition literalFloats (PyJson.ofJson (Json.obj (oneContract [])).sorted) =
        none := by
      refine if_pos (Bool.eq_false_iff.mpr fun hall => ?_)
      have hfield := List.all_eq_true.mp hall "symbol" (by decide)
      rw [hsymbol] at hfield
      cases hfield
    rw [buildPortfolioObservation, hrows, Option.bind_eq_bind, Option.bind_some, List.mapM_cons,
      hrow]
    rfl
  have hcount := (hflat fun row hrow => ?_).mp (.inl hnone)
  · rw [count_oneContract readable_unnamed] at hcount
    rcases hcount with hcount | hcount
    · cases hcount
    · cases hcount
  · rw [List.mem_singleton] at hrow
    subst hrow
    refine ⟨.option, assetClass_oneContract readable_unnamed, fun d hd _ => ?_⟩
    rw [rowQuantity_oneContract readable_unnamed, Option.some.injEq] at hd
    subst hd
    rw [toRat_one]
    rfl

end EsscherMarket.OptionEvents
