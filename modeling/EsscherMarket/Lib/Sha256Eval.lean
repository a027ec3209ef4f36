import EsscherMarket.Lib.Sha256

/-!
# Digests for the kernel

The definitions of `Lib.Sha256` leave their arithmetic standing until a digest is asked for, and the
terms of a long message grow with every round.  `strictDigest` computes each word before it goes on;
`hexdigest_eq_strict` says that it is the same digest.
-/

namespace EsscherMarket.Lib.Sha256

/-- `k n`, after `n` was computed. -/
def strict {α : Type} (n : Nat) (k : Nat → α) : α :=
  match n with
  | 0 => k 0
  | m + 1 => k (m + 1)

theorem strict_eq {α : Type} (n : Nat) (k : Nat → α) : strict n k = k n := by
  cases n <;> rfl

/-- `k ns`, after every number was computed. -/
def strictList {α : Type} : List Nat → (List Nat → α) → α
  | [], k => k []
  | n :: ns, k => strict n fun n => strictList ns fun ns => k (n :: ns)

theorem strictList_eq {α : Type} (ns : List Nat) (k : List Nat → α) : strictList ns k = k ns := by
  induction ns generalizing k with
  | nil => rfl
  | cons n ns ih => rw [strictList, strict_eq, ih]

/-- `schedule`, with the window as sixteen words. -/
def strictSchedule : Nat → Nat → Nat → Nat → Nat → Nat → Nat → Nat → Nat → Nat → Nat → Nat → Nat →
    Nat → Nat → Nat → Nat → List Nat
  | 0, w0, w1, w2, w3, w4, w5, w6, w7, w8, w9, w10, w11, w12, w13, w14, w15 =>
    [w0, w1, w2, w3, w4, w5, w6, w7, w8, w9, w10, w11, w12, w13, w14, w15]
  | n + 1, w0, w1, w2, w3, w4, w5, w6, w7, w8, w9, w10, w11, w12, w13, w14, w15 =>
    strict (add32 (add32 (smallSigma1 w14) w9) (add32 (smallSigma0 w1) w0)) fun next =>
      w0 :: strictSchedule n w1 w2 w3 w4 w5 w6 w7 w8 w9 w10 w11 w12 w13 w14 w15 next

theorem strictSchedule_eq (n : Nat) (w0 w1 w2 w3 w4 w5 w6 w7 w8 w9 w10 w11 w12 w13 w14 w15 : Nat) :
    strictSchedule n w0 w1 w2 w3 w4 w5 w6 w7 w8 w9 w10 w11 w12 w13 w14 w15 =
      schedule n [w0, w1, w2, w3, w4, w5, w6, w7, w8, w9, w10, w11, w12, w13, w14, w15] := by
  induction n generalizing w0 w1 w2 w3 w4 w5 w6 w7 w8 w9 w10 w11 w12 w13 w14 w15 with
  | zero =>
    rw [strictSchedule]
    rfl
  | succ n ih =>
    rw [strictSchedule, strict_eq, ih]
    rfl

def strictRounds : List (Nat × Nat) → Nat → Nat → Nat → Nat → Nat → Nat → Nat → Nat → Working
  | [], a, b, c, d, e, f, g, h => ⟨a, b, c, d, e, f, g, h⟩
  | kw :: rest, a, b, c, d, e, f, g, h =>
    strict (add32 (add32 h (bigSigma1 e)) (add32 (ch e f g) (add32 kw.1 kw.2))) fun t1 =>
      strict (add32 t1 (add32 (bigSigma0 a) (maj a b c))) fun a' =>
        strict (add32 d t1) fun e' => strictRounds rest a' a b c e' e f g

theorem strictRounds_eq (kws : List (Nat × Nat)) (a b c d e f g h : Nat) :
    strictRounds kws a b c d e f g h = kws.foldl round ⟨a, b, c, d, e, f, g, h⟩ := by
  induction kws generalizing a b c d e f g h with
  | nil => rfl
  | cons kw rest ih =>
    rw [strictRounds, strict_eq, strict_eq, strict_eq, ih]
    rfl

def strictSum (h v : Working) (k : Working → List Nat) : List Nat :=
  strict (add32 h.a v.a) fun a => strict (add32 h.b v.b) fun b =>
  strict (add32 h.c v.c) fun c => strict (add32 h.d v.d) fun d =>
  strict (add32 h.e v.e) fun e => strict (add32 h.f v.f) fun f =>
  strict (add32 h.g v.g) fun g => strict (add32 h.h v.h) fun h => k ⟨a, b, c, d, e, f, g, h⟩

def Working.bytes (v : Working) : List Nat :=
  [v.a, v.b, v.c, v.d, v.e, v.f, v.g, v.h].flatMap (bytesBE 4)

def strictBlocks : Nat → Working → List Nat → List Nat
  | 0, h, _ => h.bytes
  | n + 1, h, ws =>
    match ws with
    | w0 :: w1 :: w2 :: w3 :: w4 :: w5 :: w6 :: w7 :: w8 :: w9 :: w10 :: w11 :: w12 :: w13 :: w14 ::
        w15 :: rest =>
      strictSum h (strictRounds (roundConstants.zip
        (strictSchedule 48 w0 w1 w2 w3 w4 w5 w6 w7 w8 w9 w10 w11 w12 w13 w14 w15))
        h.a h.b h.c h.d h.e h.f h.g h.h) fun h' => strictBlocks n h' rest
    | ws => (blocks (n + 1) h ws).bytes

theorem strictBlocks_eq (n : Nat) (h : Working) (ws : List Nat) :
    strictBlocks n h ws = (blocks n h ws).bytes := by
  induction n generalizing h ws with
  | zero => rw [strictBlocks, blocks]
  | succ n ih =>
    unfold strictBlocks
    split
    · simp only [strictSum, strict_eq, strictSchedule_eq, strictRounds_eq, ih]
      rfl
    · rfl

/-- `hexdigest`, word by word. -/
def strictDigest (message : List UInt8) : String :=
  String.ofList (hexBytes (strictList (message.map UInt8.toNat) fun message =>
    strictList (words (padding message)) fun ws => strictBlocks (ws.length / 16) initial ws))

theorem hexdigest_eq_strict (message : List UInt8) : hexdigest message = strictDigest message := by
  rw [strictDigest, strictList_eq, strictList_eq, strictBlocks_eq]
  rfl

end EsscherMarket.Lib.Sha256
