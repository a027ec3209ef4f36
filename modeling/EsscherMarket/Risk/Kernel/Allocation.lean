import EsscherMarket.Risk.Kernel.Alone
import EsscherMarket.Risk.Ledger.Capacity

/-!
# The V2 allocation and the ledger's capacity checks

The allocator sizes an opportunity against a portfolio that the kernel builds from the open V2 rows;
the reservation transaction sums the open reservations again, in SQL order and with other groups.
-/

namespace EsscherMarket.Risk

open Lib Execution Autonomy Prog

/-! ### Amounts of open rows -/

/-- The exact amount of a V2 row, zero where its text is malformed. -/
def V2Row.amount (row : V2Row) : ℚ :=
  match row.binding.amount.value with
  | some d => d.toRat
  | none => 0

def rowSum (q : V2Row → Bool) (rows : List V2Row) : ℚ := ((rows.filter q).map V2Row.amount).sum

theorem rowSum_cons (q : V2Row → Bool) (row : V2Row) (rows : List V2Row) :
    rowSum q (row :: rows) = (if q row then row.amount else 0) + rowSum q rows := by
  by_cases h : q row <;> simp [rowSum, h]

def CanonicalAmount (cell : AmountText) : Prop :=
  ∃ d, cell.value = some d ∧ d.isFinite ∧ 0 < d.toRat ∧ d.plainText = cell.text

def debitOf (underlying : String) (debits : List (String × ℚ)) : ℚ :=
  ((debits.filter fun d => d.1 = underlying).map Prod.snd).sum

theorem debitOf_cons (underlying : String) (d : String × ℚ) (debits : List (String × ℚ)) :
    debitOf underlying (d :: debits) =
      (if d.1 = underlying then d.2 else 0) + debitOf underlying debits := by
  by_cases h : d.1 = underlying <;> simp [debitOf, h]

theorem debitOf_addDebit (underlying key : String) (amount : ℚ) (debits : List (String × ℚ)) :
    debitOf underlying (addDebit key amount debits) =
      debitOf underlying debits + if key = underlying then amount else 0 := by
  induction debits with
  | nil =>
    rw [addDebit, debitOf_cons]
    simp [debitOf]
  | cons d rest ih =>
    obtain ⟨k, v⟩ := d
    unfold addDebit
    split
    · rename_i hk
      subst hk
      rw [debitOf_cons, debitOf_cons]
      split <;> ring
    · rw [debitOf_cons, debitOf_cons, ih]
      ring

/-! ### The portfolio loop -/

theorem v2RowAmount_ok {cell : AmountText} {field : String} {d : Decimal}
    (h : v2RowAmount cell field = .ok d) :
    cell.value = some d ∧ d.isFinite ∧ 0 ≤ d.toRat ∧ d.plainText = cell.text := by
  unfold v2RowAmount at h
  split at h
  · cases h
  · rename_i d' hd'
    simp only [except_bind_eq_ok, throwIf_eq_ok, except_pure_eq_ok, not_or, not_lt, not_not,
      Bool.not_eq_false] at h
    obtain ⟨_, ⟨hfinite, hnonneg, htext⟩, rfl⟩ := h
    exact ⟨hd', hfinite, hnonneg, htext⟩

theorem v2PendingReservation_ok {v : V2ReservationRow} {underlying : String} {amount : Decimal}
    {r : AllocationReservation} (h : v2PendingReservation v underlying amount = .ok r) :
    r.1.opportunityId = v.opportunityId ∧ r.1.underlying = underlying ∧ r.1.maxLoss = amount := by
  simp only [v2PendingReservation, except_bind_eq_ok, except_mapError_eq_ok, construct_eq_ok] at h
  obtain ⟨opportunityId, hopportunity, _, -, _, -, hr⟩ := h
  rw [← hr]
  split at hopportunity
  · cases hopportunity
    exact ⟨rfl, rfl, rfl⟩
  · cases hopportunity

/-- What one open row adds to the book. -/
theorem v2BookRow_ok {policySha256 : String} {book book' : V2Book} {row : V2Row}
    (h : v2BookRow policySha256 book row = .ok book') :
    CanonicalAmount row.binding.amount ∧
    (row.state = .consumed ∧ book' = { book with
        consumedTotal := book.consumedTotal + row.amount
        consumed := addDebit row.binding.underlying row.amount book.consumed } ∨
      row.state = .reserved ∧ ∃ r : AllocationReservation,
        r.1.opportunityId = row.binding.opportunityId ∧
        r.1.underlying = row.binding.underlying ∧ r.1.maxLoss.toRat = row.amount ∧
        book' = { book with pending := book.pending ++ [r] }) := by
  simp only [v2BookRow, except_bind_eq_ok, throwIf_eq_ok, underlyingText_eq_ok, not_not,
    not_le] at h
  obtain ⟨_, -, d, hd, _, hpos, _, ⟨-, rfl⟩, h⟩ := h
  obtain ⟨hvalue, hfinite, -, htext⟩ := v2RowAmount_ok hd
  have hamount : row.amount = d.toRat := by
    rw [V2Row.amount, hvalue]
  refine ⟨⟨d, hvalue, hfinite, hpos, htext⟩, ?_⟩
  split at h
  · rename_i hstate
    simp only [except_bind_eq_ok, throwIf_eq_ok, except_pure_eq_ok] at h
    obtain ⟨_, -, rfl⟩ := h
    exact .inl ⟨hstate, by rw [hamount]⟩
  · simp only [except_bind_eq_ok, throwIf_eq_ok, except_pure_eq_ok, not_or, not_not] at h
    obtain ⟨_, ⟨hstate, -⟩, _, -, r, hr, rfl⟩ := h
    obtain ⟨hopportunity, hunderlying, hloss⟩ := v2PendingReservation_ok hr
    exact .inr ⟨hstate, r, hopportunity, hunderlying, by rw [hloss, hamount], rfl⟩

theorem reservedTotal_concat (rs : List AllocationReservation) (r : AllocationReservation) :
    reservedTotal (rs ++ [r]) = reservedTotal rs + r.1.maxLoss.toRat := by
  simp [reservedTotal]

theorem reservedUnderlying_concat (rs : List AllocationReservation) (r : AllocationReservation)
    (underlying : String) : reservedUnderlying (rs ++ [r]) underlying =
      reservedUnderlying rs underlying +
        if r.1.underlying = underlying then r.1.maxLoss.toRat else 0 := by
  by_cases h : r.1.underlying = underlying <;> simp [reservedUnderlying, h]

/-- The sums that the loop returns, from any start: by state, and by state and underlying. -/
structure BookFrom (underlying : String) (book book' : V2Book) (rows : List V2Row) : Prop where
  consumed : book'.consumedTotal =
    book.consumedTotal + rowSum (fun row => row.state = .consumed) rows
  consumedFor : debitOf underlying book'.consumed = debitOf underlying book.consumed +
    rowSum (fun row => row.state = .consumed ∧ row.binding.underlying = underlying) rows
  pending : reservedTotal book'.pending =
    reservedTotal book.pending + rowSum (fun row => row.state = .reserved) rows
  pendingFor : reservedUnderlying book'.pending underlying =
    reservedUnderlying book.pending underlying +
      rowSum (fun row => row.state = .reserved ∧ row.binding.underlying = underlying) rows

/-- What the loop sums up, with what it has checked of every row. -/
theorem v2BookRows_ok {policySha256 : String} {book book' : V2Book} {rows : List V2Row}
    (h : v2BookRows policySha256 book rows = .ok book') :
    (∀ row ∈ rows, CanonicalAmount row.binding.amount) ∧
    (∀ r ∈ book'.pending, r ∈ book.pending ∨
      ∃ row ∈ rows, row.binding.opportunityId = r.1.opportunityId) ∧
    ∀ underlying, BookFrom underlying book book' rows := by
  induction rows generalizing book with
  | nil =>
    cases h
    exact ⟨by simp, fun r hr => .inl hr, fun _ => by constructor <;> simp [rowSum]⟩
  | cons row rest ih =>
    simp only [v2BookRows, except_bind_eq_ok] at h
    obtain ⟨next, hnext, h⟩ := h
    obtain ⟨hcanonical, hrow⟩ := v2BookRow_ok hnext
    obtain ⟨hrest, hpending, hsums⟩ := ih h
    refine ⟨?_, ?_, ?_⟩
    · intro row' hrow'
      rcases List.mem_cons.mp hrow' with rfl | hrow'
      · exact hcanonical
      · exact hrest row' hrow'
    · intro r hr
      rcases hpending r hr with hmem | ⟨row', hrow', hid⟩
      · rcases hrow with ⟨-, rfl⟩ | ⟨-, r₀, hid₀, -, -, rfl⟩
        · exact .inl hmem
        · rcases List.mem_append.mp hmem with hmem | hmem
          · exact .inl hmem
          · rw [List.mem_singleton.mp hmem]
            exact .inr ⟨row, List.mem_cons_self, hid₀.symm⟩
      · exact .inr ⟨row', List.mem_cons_of_mem row hrow', hid⟩
    · intro underlying
      obtain ⟨hc, hcu, hp, hpu⟩ := hsums underlying
      -- a row adds to the sums of its state
      rcases hrow with ⟨hstate, rfl⟩ | ⟨hstate, r, -, hunderlying, hloss, rfl⟩
      · rw [debitOf_addDebit] at hcu
        refine ⟨?_, ?_, ?_, ?_⟩
        · simp only [hc, rowSum_cons, hstate]
          simp [add_assoc]
        · simp only [hcu, rowSum_cons, hstate]
          simp [add_assoc]
        · simp only [hp, rowSum_cons, hstate]
          simp
        · simp only [hpu, rowSum_cons, hstate]
          simp
      · rw [reservedTotal_concat, hloss] at hp
        rw [reservedUnderlying_concat, hloss, hunderlying] at hpu
        refine ⟨?_, ?_, ?_, ?_⟩
        · simp only [hc, rowSum_cons, hstate]
          simp
        · simp only [hcu, rowSum_cons, hstate]
          simp
        · simp only [hp, rowSum_cons, hstate]
          simp [add_assoc]
        · simp only [hpu, rowSum_cons, hstate]
          simp [add_assoc]

/-! ### The portfolio -/

theorem v2Exposures_ok {debits : List (String × ℚ)} {es : List UnderlyingExposure}
    (h : v2Exposures debits = .ok es) :
    es.map (fun e => (e.1.underlying, e.1.openDebit)) = debits := by
  induction debits generalizing es with
  | nil =>
    cases h
    rfl
  | cons d rest ih =>
    obtain ⟨underlying, amount⟩ := d
    simp only [v2Exposures, except_bind_eq_ok, construct_eq_ok, except_pure_eq_ok] at h
    obtain ⟨e, he, es', hes', rfl⟩ := h
    rw [List.map_cons, ih hes', ← he]

/-- Where each underlying appears once, the entry that is found is all of its debit. -/
theorem find_openDebit {es : List UnderlyingExposure} (h : (es.map (·.1.underlying)).Nodup)
    (underlying : String) :
    (match es.find? fun e => e.1.underlying = underlying with
      | some e => e.1.openDebit
      | none => 0) = debitOf underlying (es.map fun e => (e.1.underlying, e.1.openDebit)) := by
  induction es with
  | nil => simp [debitOf]
  | cons e rest ih =>
    rw [List.map_cons, List.nodup_cons] at h
    rw [List.map_cons, debitOf_cons]
    by_cases he : e.1.underlying = underlying
    · have hrest : debitOf underlying (rest.map fun e => (e.1.underlying, e.1.openDebit)) = 0 := by
        have hnone : (rest.map fun e => (e.1.underlying, e.1.openDebit)).filter
            (fun d => d.1 = underlying) = [] := by
          simp only [List.filter_eq_nil_iff, List.mem_map, decide_eq_true_eq]
          rintro _ ⟨e', he', rfl⟩ hsame
          exact h.1 (List.mem_map.mpr ⟨e', he', hsame.trans he.symm⟩)
        rw [debitOf, hnone]
        rfl
      rw [List.find?_cons_of_pos (by simpa using he), if_pos he, hrest, add_zero]
    · rw [List.find?_cons_of_neg (by simpa using he), if_neg he, zero_add]
      exact ih h.2

theorem debitOf_sortedDebits (underlying : String) (debits : List (String × ℚ)) :
    debitOf underlying (sortedDebits debits) = debitOf underlying debits :=
  (((List.perm_insertionSort _ debits).filter _).map _).sum_eq

/-- What the portfolio carries of the account and the book. -/
theorem v2PortfolioState_ok {account : AccountSnapshot} {cash : Decimal} {book : V2Book}
    {portfolio : PortfolioState} (h : v2PortfolioState account cash book = .ok portfolio) :
    portfolio.1.equity = account.equity ∧ portfolio.1.cash = cash ∧
    portfolio.1.openDebit = book.consumedTotal ∧
    ∀ underlying, underlyingOpen portfolio underlying = debitOf underlying book.consumed := by
  simp only [v2PortfolioState, except_mapError_eq_ok, except_bind_eq_ok, construct_eq_ok] at h
  obtain ⟨es, hes, hportfolio⟩ := h
  have hexposures : portfolio.1.exposures = es := by
    rw [← hportfolio]
  have hnodup : (es.map (·.1.underlying)).Nodup := by
    have hcheck := portfolio.2
    simp only [PortfolioStateFields.check, except_bind_eq_ok, throwIf_eq_ok, not_not] at hcheck
    obtain ⟨_, -, _, -, _, -, _, hnodup, -⟩ := hcheck
    rwa [hexposures] at hnodup
  refine ⟨by rw [← hportfolio], by rw [← hportfolio], by rw [← hportfolio], ?_⟩
  intro underlying
  rw [underlyingOpen, hexposures]
  refine (find_openDebit hnodup underlying).trans ?_
  rw [v2Exposures_ok hes, debitOf_sortedDebits]

/-- What `_v2_portfolio` returns, and that it only reads. -/
theorem v2Portfolio_ok {s s' : Ledger} {t : V2Truth} {policySha256 : String}
    {portfolio : PortfolioState} {existing : List AllocationReservation}
    (h : (v2Portfolio t policySha256).run ledgerAnswer s = (.ok (portfolio, existing), s')) :
    s' = s ∧ s.hasNonV2OpenReservations = false ∧
    ∃ book, v2BookRows policySha256 .empty s.v2OpenReservationRows = .ok book ∧
      v2PortfolioState t.account t.cash book = .ok portfolio ∧ book.pending = existing := by
  obtain ⟨hnonV2, h⟩ := run_raiseIf_bind_ok (c := s.hasNonV2OpenReservations = true) h
  obtain ⟨book, hbook, h⟩ := run_ofExcept_bind_ok h
  obtain ⟨-, h⟩ := run_raiseIf_bind_ok h
  obtain ⟨_, -, h⟩ := run_ofExcept_bind_ok h
  obtain ⟨_, hportfolio, h⟩ := run_ofExcept_bind_ok h
  cases h
  exact ⟨rfl, by simpa using hnonV2, book, hbook, hportfolio, rfl⟩

/-- The portfolio of a ledger without open reservations and an account without positions and
orders. -/
theorem run_v2Portfolio_empty {s : Ledger} {account : AccountSnapshot} {cash : Decimal}
    {portfolio : PortfolioState} (hopen : s.openReservations = [])
    (hrows : s.v2OpenReservationRows = [])
    (hportfolio : portfolio.1 = ⟨account.equity, cash, 0, []⟩) (policySha256 : String) :
    (v2Portfolio ⟨account, cash, [], []⟩ policySha256).run ledgerAnswer s =
      (.ok (portfolio, []), s) := by
  have hnonV2 : ¬ s.hasNonV2OpenReservations = true := by
    simp [Ledger.hasNonV2OpenReservations, hopen]
  have hstate : v2PortfolioState account cash .empty = .ok portfolio :=
    except_mapError_eq_ok.mpr (except_bind_eq_ok.mpr
      ⟨[], rfl, construct_eq_ok.mpr hportfolio.symm⟩)
  refine run_perform_bind ?_
  refine run_raiseIf_bind (c := s.hasNonV2OpenReservations = true) hnonV2 ?_
  refine run_perform_bind ?_
  refine run_ofExcept_bind (a := V2Book.empty) (by simp only [ledgerAnswer, hrows]; rfl) ?_
  refine run_raiseIf_bind (by simp) ?_
  refine run_perform_bind (run_ofExcept_bind rfl ?_)
  exact run_ofExcept_bind hstate rfl

/-! ### The rows and the open reservations -/

section Rows

variable {s : Ledger}

theorem v2Join_eq_some {v : V2ReservationRow} {row : V2Row} :
    s.v2Join v = some row ↔ ∃ r p, s.reservations.find? (fun r => r.reservationId = v.reservationId) =
      some r ∧ s.permits.find? (fun p => p.permitId = v.permitId) = some p ∧
      row = ⟨v, r.state, p.state⟩ := by
  simp only [Ledger.v2Join, Option.bind_eq_bind, Option.bind_eq_some_iff, Option.pure_def,
    Option.some.injEq]
  constructor
  · rintro ⟨r, hr, p, hp, rfl⟩
    exact ⟨r, p, hr, hp, rfl⟩
  · rintro ⟨r, p, hr, hp, rfl⟩
    exact ⟨r, hr, p, hp, rfl⟩

theorem find_reservation (h : V2Consistent s) {r : ReservationRow} (hr : r ∈ s.reservations) :
    s.reservations.find? (fun r' => r'.reservationId = r.reservationId) = some r := by
  cases hfind : s.reservations.find? (fun r' => r'.reservationId = r.reservationId) with
  | none =>
    rw [List.find?_eq_none] at hfind
    simpa using hfind r hr
  | some r' =>
    have hid : r'.reservationId = r.reservationId := by
      simpa using List.find?_some hfind
    rw [Table.eq_of_key h.reservationIds (List.mem_of_find?_eq_some hfind) hr hid]

/-- An open row is an open reservation with its binding. -/
theorem mem_v2OpenReservationRows (h : V2Consistent s) {row : V2Row}
    (hrow : row ∈ s.v2OpenReservationRows) :
    ∃ r ∈ s.openReservations, r.reservationId = row.binding.reservationId ∧
      s.v2Binding r = some row.binding ∧ r.state = row.state ∧
      r.underlying = row.binding.underlying ∧ r.amount = row.binding.amount := by
  rw [Ledger.v2OpenReservationRows, List.mem_insertionSort] at hrow
  obtain ⟨hmem, hopen⟩ := List.mem_filter.mp hrow
  obtain ⟨v, hv, hjoin⟩ := List.mem_filterMap.mp hmem
  obtain ⟨r, p, hr, -, rfl⟩ := v2Join_eq_some.mp hjoin
  have hrmem := List.mem_of_find?_eq_some hr
  have hrid : r.reservationId = v.reservationId := by
    simpa using List.find?_some hr
  obtain ⟨r₀, hr₀, hid₀, hamount, hunderlying⟩ := h.bound v hv
  have hsame : r₀ = r := Table.eq_of_key h.reservationIds hr₀ hrmem (hid₀.trans hrid.symm)
  subst hsame
  have hbinding : s.v2Binding r₀ = some v := by
    unfold Ledger.v2Binding
    cases hfind : s.v2Reservations.find? (fun v => v.reservationId = r₀.reservationId) with
    | none =>
      rw [List.find?_eq_none] at hfind
      exact absurd hrid.symm (by simpa using hfind v hv)
    | some v' =>
      have hid : v'.reservationId = r₀.reservationId := by
        simpa using List.find?_some hfind
      rw [Table.eq_of_key h.bindingIds (List.mem_of_find?_eq_some hfind) hv (hid.trans hrid)]
  exact ⟨r₀, List.mem_filter.mpr ⟨hrmem, hopen⟩, hrid, hbinding, rfl, hunderlying, hamount⟩

theorem exists_v2OpenReservationRow (h : V2Consistent s) {r : ReservationRow}
    (hr : r ∈ s.openReservations) (hbound : (s.v2Binding r).isSome) :
    ∃ row ∈ s.v2OpenReservationRows, row.binding.reservationId = r.reservationId := by
  obtain ⟨hrmem, hopen⟩ := List.mem_filter.mp hr
  obtain ⟨v, hv⟩ := Option.isSome_iff_exists.mp hbound
  have hvmem : v ∈ s.v2Reservations := List.mem_of_find?_eq_some hv
  have hid : v.reservationId = r.reservationId := by
    unfold Ledger.v2Binding at hv
    simpa using List.find?_some hv
  have hjoin : (s.v2Join v).isSome :=
    v2Join_isSome.mpr ⟨⟨r, hrmem, hid.symm⟩, h.permitted v hvmem⟩
  obtain ⟨row, hrow⟩ := Option.isSome_iff_exists.mp hjoin
  obtain ⟨r', p, hr', -, rfl⟩ := v2Join_eq_some.mp hrow
  have hsame : r' = r := by
    rw [hid, find_reservation h hrmem] at hr'
    exact (Option.some.inj hr').symm
  subst hsame
  refine ⟨⟨v, r'.state, p.state⟩, ?_, hid⟩
  rw [Ledger.v2OpenReservationRows, List.mem_insertionSort]
  exact List.mem_filter.mpr ⟨List.mem_filterMap.mpr ⟨v, hvmem, hrow⟩, hopen⟩

theorem sublist_v2Join (l : List V2ReservationRow) :
    ((l.filterMap s.v2Join).map (·.binding.reservationId)).Sublist
      (l.map (·.reservationId)) := by
  induction l with
  | nil => exact .slnil
  | cons v rest ih =>
    cases hjoin : s.v2Join v with
    | none =>
      rw [List.filterMap_cons_none hjoin, List.map_cons]
      exact ih.cons _
    | some row =>
      obtain ⟨r, p, -, -, rfl⟩ := v2Join_eq_some.mp hjoin
      rw [List.filterMap_cons_some hjoin, List.map_cons, List.map_cons]
      exact ih.cons_cons _

/-- The open rows are the open reservations, each once. -/
theorem v2OpenReservationRows_perm (h : V2Consistent s)
    (hbound : ∀ r ∈ s.openReservations, (s.v2Binding r).isSome) :
    (s.v2OpenReservationRows.map (·.binding.reservationId)).Perm
      (s.openReservations.map (·.reservationId)) := by
  have hrows : (s.v2OpenReservationRows.map (·.binding.reservationId)).Nodup := by
    rw [Ledger.v2OpenReservationRows, ((List.perm_insertionSort _ _).map _).nodup_iff]
    exact ((List.filter_sublist.map _).trans (sublist_v2Join _)).nodup h.bindingIds
  have hopen : (s.openReservations.map (·.reservationId)).Nodup :=
    (List.filter_sublist.map _).nodup h.reservationIds
  rw [List.perm_ext_iff_of_nodup hrows hopen]
  intro id
  constructor
  · intro hid
    obtain ⟨row, hrow, rfl⟩ := List.mem_map.mp hid
    obtain ⟨r, hr, hrid, -⟩ := mem_v2OpenReservationRows h hrow
    exact List.mem_map.mpr ⟨r, hr, hrid⟩
  · intro hid
    obtain ⟨r, hr, rfl⟩ := List.mem_map.mp hid
    obtain ⟨row, hrow, hrid⟩ := exists_v2OpenReservationRow h hr (hbound r hr)
    exact List.mem_map.mpr ⟨row, hrow, hrid⟩

/-- The V2 amount of the reservation with an identity, as far as a condition holds of it. -/
def Ledger.v2AmountById (s : Ledger) (q : ReservationRow → Bool) (id : String) : ℚ :=
  match s.reservations.find? fun r => r.reservationId = id with
  | some r => if q r then s.v2Amount r else 0
  | none => 0

theorem v2AmountById_of_mem (h : V2Consistent s) (q : ReservationRow → Bool) {r : ReservationRow}
    (hr : r ∈ s.reservations) :
    s.v2AmountById q r.reservationId = if q r then s.v2Amount r else 0 := by
  rw [Ledger.v2AmountById, find_reservation h hr]

theorem sum_map_ite {α : Type} (q : α → Bool) (w : α → ℚ) (l : List α) :
    ((l.filter q).map w).sum = (l.map fun a => if q a then w a else 0).sum := by
  induction l with
  | nil => rfl
  | cons a rest ih => by_cases ha : q a <;> simp [ha, ih]

/-- Sums over the open rows are sums over the open reservations. -/
theorem rowSum_open (h : V2Consistent s)
    (hbound : ∀ r ∈ s.openReservations, (s.v2Binding r).isSome)
    (f : ReservationState → String → Bool) :
    rowSum (fun row => f row.state row.binding.underlying) s.v2OpenReservationRows =
      v2SumWhere s (fun r => f r.state r.underlying) s.openReservations := by
  set q : ReservationRow → Bool := fun r => f r.state r.underlying
  have hrows : (s.v2OpenReservationRows.map fun row =>
        if f row.state row.binding.underlying then row.amount else 0) =
      (s.v2OpenReservationRows.map (·.binding.reservationId)).map (s.v2AmountById q) := by
    rw [List.map_map]
    apply List.map_congr_left
    intro row hrow
    obtain ⟨r, hr, hrid, hbinding, hstate, hunderlying, -⟩ := mem_v2OpenReservationRows h hrow
    have hamount : s.v2Amount r = row.amount := by
      rw [Ledger.v2Amount, hbinding, V2Row.amount]
      rfl
    rw [Function.comp_apply, ← hrid, v2AmountById_of_mem h q (List.mem_of_mem_filter hr), hamount,
      ← hstate, ← hunderlying]
  have hopen : (s.openReservations.map fun r => if q r then s.v2Amount r else 0) =
      (s.openReservations.map (·.reservationId)).map (s.v2AmountById q) := by
    rw [List.map_map]
    apply List.map_congr_left
    intro r hr
    rw [Function.comp_apply, v2AmountById_of_mem h q (List.mem_of_mem_filter hr)]
  rw [rowSum, sum_map_ite, hrows, v2SumWhere, sum_map_ite, hopen]
  exact ((v2OpenReservationRows_perm h hbound).map _).sum_eq

/-! ### The ledger's sums -/

theorem v2StoredAmount_of_canonical {cell : AmountText} (h : CanonicalAmount cell)
    (path : String) : ∃ d, cell.value = some d ∧ v2StoredAmount cell path true = .ok d := by
  obtain ⟨d, hvalue, hfinite, hpos, htext⟩ := h
  refine ⟨d, hvalue, ?_⟩
  have hcanonical : v2DecimalText d = cell.text := by
    rw [v2DecimalText, if_neg hpos.ne', htext]
  unfold v2StoredAmount
  rw [hvalue]
  simp only [except_bind_eq_ok, amountOf_eq_ok, throwIf_eq_ok, except_pure_eq_ok]
  exact ⟨d, ⟨⟨hfinite, hpos.le⟩, rfl⟩, (), fun hle => absurd hle.2 (not_le.mpr hpos), (),
    not_not.mpr hcanonical, rfl⟩

theorem v2OpenAmount_of_canonical {r : ReservationRow} {v : V2ReservationRow}
    (hbinding : s.v2Binding r = some v) (hamount : r.amount = v.amount)
    (h : CanonicalAmount v.amount) : ∃ d, v2OpenAmount s r = .ok d := by
  obtain ⟨d, hvalue, hreservation⟩ := v2StoredAmount_of_canonical h "reservations.amount"
  obtain ⟨d', hvalue', hv2⟩ := v2StoredAmount_of_canonical h "v2_reservations.amount"
  have hsame : d' = d := Option.some.inj (hvalue'.symm.trans hvalue)
  subst hsame
  refine ⟨d', ?_⟩
  unfold v2OpenAmount
  rw [hbinding, hamount]
  simp only [except_bind_eq_ok, throwIf_eq_ok, except_pure_eq_ok]
  exact ⟨d', hreservation, d', hv2, (), not_not.mpr rfl, rfl⟩

theorem v2Accumulate_total {rows : List ReservationRow}
    (h : ∀ r ∈ rows, ∃ d, v2OpenAmount s r = .ok d) (symbol : String) (t : V2Totals) :
    ∃ t', v2Accumulate s symbol t rows = .ok t' := by
  induction rows generalizing t with
  | nil => exact ⟨t, rfl⟩
  | cons r rest ih =>
    obtain ⟨d, hd⟩ := h r List.mem_cons_self
    obtain ⟨t', ht'⟩ := ih (fun r' hr' => h r' (List.mem_cons_of_mem r hr'))
      (t.add symbol r d.toRat)
    exact ⟨t', except_bind_eq_ok.mpr ⟨d, hd, ht'⟩⟩

end Rows

/-! ### A concrete opportunity

The spread under the V2 policy, and a ledger on which its candidate is frozen and entries are
allowed. -/

def spyPolicyV2 : RiskPolicyV2 where
  policyId := "PAPER_ACCOUNT_RISK_POLICY_V2"
  version := "v2"
  runMode := "PAPER"
  startingEquity := .ofNat 100000
  riskTiers := (.cents 10, .cents 5, .cents 20)
  maxPerUnderlyingOpenDebitFraction := .cents 20
  maxAggregateOpenDebitFraction := .cents 50
  emergencyDrawdownFreezeFraction := .cents 50
  cashOnly := true
  definedRiskOnly := true
  truthMaxAgeSeconds := 30
  ownerPolicySha256 := approvedOwnerPolicySha256
  constantsSourceSha256 := approvedOwnerPolicySha256
  accepted := by decide +kernel

def spyCompiledV2 : CompiledExpression :=
  spyExpression "e1" (riskPolicyV2Sha256 spyPolicyV2) (by decide) (Json.length_sha256 _)

/-- The spread as an opportunity of the five percent tier. -/
def spyOpportunity : DefinedRiskOpportunity :=
  ⟨⟨"o1", digestA, compiledExpressionSha256 spyCompiledV2, "SPY", .fivePercent, .cents 25000, true⟩,
    DefinedRiskOpportunityFields.check_eq_ok.mpr ⟨by decide, by decide,
      isIdentifier_of_isLowerHex (Json.isLowerHex_sha256 _), by decide, by decide,
      by decide +kernel⟩⟩

/-- The cash of the account: enough for many contracts, or for one. -/
def cashV2 (ample : Bool) : Decimal := .ofNat (if ample then 100000 else 300)

def accountV2 (ample : Bool) : AccountSnapshot :=
  ⟨⟨.ofNat 100000, .ofNat 100000, "USD", .utc 1000, some (cashV2 ample)⟩, by
    cases ample <;> decide +kernel⟩

def portfolioV2 (ample : Bool) : PortfolioState :=
  ⟨⟨.ofNat 100000, cashV2 ample, 0, []⟩, by cases ample <;> decide +kernel⟩

def spyEntryV2 (ample : Bool) : EntryV2Args where
  eventId := "e1"
  candidateId := "c1"
  opportunity := spyOpportunity
  compiled := spyCompiledV2
  permit := spyPermit "e1" (riskPolicyV2Sha256 spyPolicyV2) strip_e1
    (Json.isLowerHex_sha256 _)
  truth := ⟨.ok (.utc 1000), .ok (some (accountV2 ample)), .ok [], .ok []⟩
  now := .utc 1000

def deskV2Freeze : CandidateArgs :=
  ⟨"e1", "c1", riskPolicyV2Sha256 spyPolicyV2, digestA, compiledExpressionSha256 spyCompiledV2,
    "REPLAY", .utc 1000⟩

def deskV2Candidate : CandidateRow :=
  ⟨"e1", "c1", riskPolicyV2Sha256 spyPolicyV2, digestA, compiledExpressionSha256 spyCompiledV2,
    "REPLAY", .utc 1000⟩

def deskV2 : Ledger :=
  (Ledger.empty.withCandidates [deskV2Candidate]).withControlState (some ⟨.active, none, .utc 1000⟩)

theorem validatedCandidate_deskV2 : validatedCandidate deskV2Freeze = .ok deskV2Candidate := by
  have hpolicy : isLowerHex 64 (riskPolicyV2Sha256 spyPolicyV2) := Json.isLowerHex_sha256 _
  have hexpression : isLowerHex 64 (compiledExpressionSha256 spyCompiledV2) :=
    Json.isLowerHex_sha256 _
  simp only [validatedCandidate, except_bind_eq_ok, except_pure_eq_ok, identifier_eq_ok,
    sha256Text_eq_ok, timestamp_eq_ok]
  exact ⟨_, ⟨by decide, rfl⟩, _, ⟨by decide, rfl⟩, _, ⟨hpolicy, rfl⟩, _,
    ⟨isLowerHex_digestA, rfl⟩, _, ⟨hexpression, rfl⟩, _, ⟨by decide, rfl⟩, _,
    ⟨rfl, rfl⟩, rfl⟩

/-- The desk is reached by importing the candidate and setting the control state. -/
theorem deskV2_reachable : deskV2.Reachable := by
  have hrecord : recordCandidate deskV2Freeze Ledger.empty =
      .ok () (Ledger.empty.withCandidates [deskV2Candidate]) :=
    Txn.lift_bind_eq_ok.mpr ⟨_, validatedCandidate_deskV2,
      Txn.immediate_eq_ok.mpr (storeCandidate_new rfl rfl)⟩
  have hfirst : LedgerCall.exec Ledger.empty (.recordCandidate deskV2Freeze) =
      Ledger.empty.withCandidates [deskV2Candidate] := Txn.after_of_ok hrecord
  refine ⟨[.recordCandidate deskV2Freeze, .setControlState .active none (.utc 1000)], ?_⟩
  rw [List.foldl_cons, List.foldl_cons, List.foldl_nil, hfirst]
  rfl

theorem run_v2Portfolio_deskV2 (ample : Bool) :
    (v2Portfolio ⟨accountV2 ample, cashV2 ample, [], []⟩ (riskPolicyV2Sha256 spyPolicyV2)).run
      ledgerAnswer deskV2 = (.ok (portfolioV2 ample, []), deskV2) :=
  run_v2Portfolio_empty rfl rfl rfl _

theorem deskV2_first (ample : Bool) : truncDiv (Autonomy.capacities (portfolioV2 ample) spyOpportunity []).least
    spyOpportunity.1.maxDebitPerContract.toRat = if ample then 20 else 1 := by
  revert ample
  decide +kernel

/-- Twenty contracts with ample cash, one without. -/
theorem allocate_deskV2 (ample : Bool) :
    ∃ d, allocateDefinedRisk (portfolioV2 ample) spyOpportunity [] = .ok d ∧
      d.status = .allocated ∧ d.quantity = if ample then 20 else 1 := by
  cases ample with
  | false => exact allocateDefinedRisk_first rfl (deskV2_first false) (by decide)
  | true => exact allocateDefinedRisk_first rfl (deskV2_first true) (by decide)

/-! ### Agreement -/

/-- The ledger's sums are the debit that the portfolio and its reservations carry. -/
structure TotalsAgree (portfolio : PortfolioState) (existing : List AllocationReservation)
    (underlying : String) (t : V2Totals) : Prop where
  consumed : t.consumedTotal = portfolio.1.openDebit
  reserved : t.reservedTotal = reservedTotal existing
  consumedFor : t.consumedUnderlying = underlyingOpen portfolio underlying
  reservedFor : t.reservedUnderlying = reservedUnderlying existing underlying

/-- The two sets of sums agree on every consistent ledger on which the portfolio can be
built. -/
theorem v2Totals_agree {s : Ledger} {t : V2Truth} {policySha256 : String}
    {portfolio : PortfolioState} {book : V2Book} (hs : V2Consistent s)
    (hnonV2 : s.hasNonV2OpenReservations = false)
    (hbook : v2BookRows policySha256 .empty s.v2OpenReservationRows = .ok book)
    (hportfolio : v2PortfolioState t.account t.cash book = .ok portfolio) (underlying : String) :
    ∃ totals, v2Totals s underlying = .ok totals ∧
      TotalsAgree portfolio book.pending underlying totals := by
  have hbound : ∀ r ∈ s.openReservations, (s.v2Binding r).isSome := by
    simpa [Ledger.hasNonV2OpenReservations, Option.isSome_iff_ne_none] using hnonV2
  obtain ⟨hcanonical, -, hsums⟩ := v2BookRows_ok hbook
  obtain ⟨-, -, hdebit, hopenFor⟩ := v2PortfolioState_ok hportfolio
  have hamounts : ∀ r ∈ s.openReservations, ∃ d, v2OpenAmount s r = .ok d := by
    intro r hr
    obtain ⟨row, hrow, hid⟩ := exists_v2OpenReservationRow hs hr (hbound r hr)
    obtain ⟨r', hr', hid', hbinding, -, -, hamount⟩ := mem_v2OpenReservationRows hs hrow
    have hsame : r' = r := Table.eq_of_key hs.reservationIds (List.mem_of_mem_filter hr')
      (List.mem_of_mem_filter hr) (hid'.trans hid)
    subst hsame
    exact v2OpenAmount_of_canonical hbinding hamount (hcanonical row hrow)
  obtain ⟨totals, htotals⟩ := v2Accumulate_total hamounts underlying ⟨0, 0, 0, 0⟩
  have hopen : ∀ r ∈ s.openReservations, r.state.isOpen := by
    intro r hr
    exact (List.mem_filter.mp hr).2
  obtain ⟨-, hc, hr, hcu, hru⟩ := v2Accumulate_ok hopen htotals
  obtain ⟨bc, bcu, bp, bpu⟩ := hsums underlying
  have hsum := fun f => rowSum_open hs hbound f
  refine ⟨totals, htotals, ?_, ?_, ?_, ?_⟩
  · rw [hc, hdebit, bc, hsum fun state _ => state = .consumed]
    rfl
  · rw [hr, bp, hsum fun state _ => state = .reserved]
    rfl
  · rw [hcu, hopenFor, bcu, hsum fun state u => state = .consumed ∧ u = underlying]
    rfl
  · rw [hru, bpu, hsum fun state u => state = .reserved ∧ u = underlying]
    rfl

/-- The tier of an opportunity, as the ledger reads it. -/
theorem v2RiskTier_fraction (tier : Autonomy.RiskTier) (path : String) :
    ∃ t : RiskTier, v2RiskTier tier.fraction path = .ok t ∧ t.toRat = tier.fraction.toRat := by
  cases tier with
  | fivePercent => exact ⟨.five, v2RiskTier_eq_ok.mpr ⟨rfl, rfl⟩, rfl⟩
  | tenPercent => exact ⟨.ten, v2RiskTier_eq_ok.mpr ⟨rfl, rfl⟩, rfl⟩
  | twentyPercent => exact ⟨.twenty, v2RiskTier_eq_ok.mpr ⟨rfl, rfl⟩, rfl⟩

theorem opportunityId_ne_of_pending {s : Ledger} {policySha256 opportunityId : String}
    {book : V2Book} (hbook : v2BookRows policySha256 .empty s.v2OpenReservationRows = .ok book)
    (hnew : s.v2ReservationForOpportunity opportunityId = none) :
    ∀ r ∈ book.pending, r.1.opportunityId ≠ opportunityId := by
  intro r hr hid
  rcases (v2BookRows_ok hbook).2.1 r hr with hmem | ⟨row, hrow, hrid⟩
  · cases hmem
  · rw [Ledger.v2OpenReservationRows, List.mem_insertionSort] at hrow
    obtain ⟨v, hv, hjoin⟩ := List.mem_filterMap.mp (List.mem_of_mem_filter hrow)
    obtain ⟨_, _, -, -, rfl⟩ := v2Join_eq_some.mp hjoin
    rw [Ledger.v2ReservationForOpportunity, List.findSome?_eq_none_iff] at hnew
    have hnone := hnew v hv
    rw [if_pos (hrid.trans hid), hjoin] at hnone
    cases hnone

section Agreement

variable {s s' : Ledger} {t : V2Truth} {policySha256 : String} {portfolio : PortfolioState}
  {existing : List AllocationReservation} {p : RiskPolicyV2} {a : EntryV2Args}
  {d : AllocationDecision} {event candidate activePolicy reservationId : String}

/-- The arguments that the kernel derives from a new allocation fit the four capacities. -/
theorem allocation_capacityOk (hs : V2Consistent s)
    (hportfolio : (v2Portfolio t policySha256).run ledgerAnswer s =
      (.ok (portfolio, existing), s'))
    (hd : allocateDefinedRisk portfolio a.opportunity existing = .ok d)
    (hallocated : d.status = .allocated)
    (hnew : s.v2ReservationForOpportunity a.opportunity.1.opportunityId = none)
    (event candidate activePolicy reservationId : String) :
    d.maxLoss.toRat = d.quantity * a.opportunity.1.maxDebitPerContract.toRat ∧
    d.maxLoss.isFinite ∧ d.reservationId = some (reservationIdentity a.opportunity d.quantity d.maxLoss) ∧
    1 ≤ d.quantity ∧
    ∃ tier totals, v2RiskTier a.opportunity.1.riskTier.fraction "v2_authorization.risk_tier" =
        .ok tier ∧
      v2Totals s a.opportunity.1.underlying = .ok totals ∧
      V2CapacityOk (entryV2ReserveArgs p a event candidate a.opportunity.1.underlying activePolicy
        reservationId t d) tier totals := by
  obtain ⟨rfl, hnonV2, book, hbook, hstate, rfl⟩ := v2Portfolio_ok hportfolio
  obtain ⟨hequity, hcash, -, -⟩ := v2PortfolioState_ok hstate
  obtain ⟨totals, htotals, hagree⟩ := v2Totals_agree hs hnonV2 hbook hstate
    a.opportunity.1.underlying
  obtain ⟨tier, htier, hfraction⟩ := v2RiskTier_fraction a.opportunity.1.riskTier
    "v2_authorization.risk_tier"
  obtain ⟨hone, hfinite, hid, hloss, htierCap, hunderlyingCap, haggregateCap, hcashCap⟩ :=
    allocateDefinedRisk_new hd hallocated (opportunityId_ne_of_pending hbook hnew)
  obtain ⟨-, -, -, -, -, ⟨-, hperUnderlying⟩, -, haggregate⟩ := p.values
  simp only [capacities, hequity, hcash] at htierCap hunderlyingCap haggregateCap hcashCap
  refine ⟨hloss, hfinite, hid, hone, tier, totals, htier, htotals, ?_, ?_, ?_, ?_⟩
  · show d.maxLoss.toRat ≤ tier.toRat * t.account.equity.toRat
    rw [hfraction]
    exact htierCap
  · show totals.consumedTotal + totals.reservedTotal + d.maxLoss.toRat ≤
      p.maxAggregateOpenDebitFraction.toRat * t.account.equity.toRat
    rw [hagree.consumed, hagree.reserved, haggregate]
    rw [maxAggregateOpenDebitFraction] at haggregateCap
    linarith
  · show totals.consumedUnderlying + totals.reservedUnderlying + d.maxLoss.toRat ≤
      p.maxPerUnderlyingOpenDebitFraction.toRat * t.account.equity.toRat
    rw [hagree.consumedFor, hagree.reservedFor, hperUnderlying]
    rw [maxPerUnderlyingFraction] at hunderlyingCap
    linarith
  · show d.maxLoss.toRat ≤ t.cash.toRat - totals.reservedTotal
    rw [hagree.reserved]
    exact hcashCap

/-- Allocator and ledger agree: what the allocator allocates passes the four capacity checks of the
reservation transaction on the same ledger. -/
theorem allocation_fits (hs : s.Reachable)
    (hportfolio : (v2Portfolio t policySha256).run ledgerAnswer s =
      (.ok (portfolio, existing), s'))
    (hd : allocateDefinedRisk portfolio a.opportunity existing = .ok d)
    (hallocated : d.status = .allocated)
    (hnew : s.v2ReservationForOpportunity a.opportunity.1.opportunityId = none)
    {r : ReserveV2Args} (hr : r = entryV2ReserveArgs p a event candidate
      a.opportunity.1.underlying activePolicy reservationId t d) :
    s' = s ∧ r.amount.toRat = d.quantity * a.opportunity.1.maxDebitPerContract.toRat ∧
    ∃ tier totals, v2RiskTier r.riskTier "v2_authorization.risk_tier" = .ok tier ∧
      v2Totals s r.underlying = .ok totals ∧ v2CapacityChecks r tier totals s = .ok () s := by
  obtain ⟨hloss, -, -, -, tier, totals, htier, htotals, hcapacity⟩ :=
    allocation_capacityOk (v2Consistent_reachable hs) hportfolio hd hallocated hnew event candidate
      activePolicy reservationId
  subst hr
  exact ⟨(v2Portfolio_ok hportfolio).1, hloss, tier, totals, htier, htotals,
    v2CapacityChecks_eq_ok.mpr ⟨hcapacity, rfl⟩⟩

end Agreement

/-- On the desk the reservation of twenty contracts passes its checks. -/
theorem allocation_fits_desk : ∃ d : AllocationDecision, d.quantity = 20 ∧
    ∀ r, r = entryV2ReserveArgs spyPolicyV2 (spyEntryV2 true) "e1" "c1" "SPY"
        (riskPolicyV2Sha256 spyPolicyV2) "reservation" ⟨accountV2 true, cashV2 true, [], []⟩ d →
      r.amount.toRat = 5000 ∧ ∃ tier totals,
        v2CapacityChecks r tier totals deskV2 = .ok () deskV2 := by
  obtain ⟨d, hd, hallocated, hquantity⟩ := allocate_deskV2 true
  refine ⟨d, hquantity, fun r hr => ?_⟩
  obtain ⟨-, hamount, tier, totals, -, -, hchecks⟩ := allocation_fits (a := spyEntryV2 true)
    deskV2_reachable (run_v2Portfolio_deskV2 true) hd hallocated rfl hr
  refine ⟨?_, tier, totals, hchecks⟩
  rw [hamount, hquantity]
  decide +kernel

end EsscherMarket.Risk
