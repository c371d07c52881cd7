import Mathlib.Data.List.Basic
import Mathlib.Tactic.Common

/-! # Incremental decoders

A decoder looks at the symbols that arrived and were not consumed: it asks for more, consumes some, or
consumes some and ends, and does not change its decision when more symbols arrive. So a run on `a ++ b`
is a run on `a`, continued with what `b` adds (`Decoder.run_append`).

A receiver gets its input in pieces. If it handles every piece as the decoder does (`Receiver.Follows`),
it does on all pieces what the decoder does on their concatenation (`Follows.readAll_iff`). -/

/-- The decision of a decoder on the symbols in front of it. -/
inductive Verdict (σ : Type*) where
  /-- Wait for more symbols. -/
  | more
  /-- Consume `n` symbols and go on in the state `s`. -/
  | take (n : ℕ) (s : σ)
  /-- Consume `n` symbols and end in the state `s`. -/
  | stop (n : ℕ) (s : σ)

/-- A decoder of symbols `β` with states `σ`. -/
@[ext] structure Decoder (β σ : Type*) where
  step : σ → List β → Verdict σ
  take_pos : ∀ {s b n s'}, step s b = .take n s' → 0 < n
  take_le : ∀ {s b n s'}, step s b = .take n s' → n ≤ b.length
  stop_le : ∀ {s b n s'}, step s b = .stop n s' → n ≤ b.length
  step_append : ∀ {s b} (c), step s b ≠ .more → step s (b ++ c) = step s b

namespace Decoder

/-- Where a decoder got to: its state, the symbols not consumed and whether it ended. -/
structure Outcome (β σ : Type*) where
  state : σ
  rest : List β
  stopped : Bool

variable {β σ : Type*} (d : Decoder β σ)

/-- At most `fuel` decisions. -/
def runFuel : ℕ → σ → List β → Outcome β σ
  | 0, s, b => ⟨s, b, false⟩
  | fuel + 1, s, b =>
    match d.step s b with
    | .more => ⟨s, b, false⟩
    | .take n s' => runFuel fuel s' (b.drop n)
    | .stop n s' => ⟨s', b.drop n, true⟩

/-- Decide until more symbols are needed or the decoder ends. Every decision that goes on consumes a
symbol, so one decision more than there are symbols is enough. -/
def run (s : σ) (b : List β) : Outcome β σ := d.runFuel (b.length + 1) s b

/-- More symbols arrive. -/
def feed (o : Outcome β σ) (c : List β) : Outcome β σ :=
  if o.stopped then { o with rest := o.rest ++ c } else d.run o.state (o.rest ++ c)

/-- After the input `b`, every one of the pieces that arrive until the decoder ends fits into a buffer
of size `limit` together with what is left over then. -/
def Fits (limit : Int) (s : σ) : List β → List (List β) → Prop
  | _, [] => True
  | b, c :: cs =>
    (d.run s b).stopped = true ∨
      (((d.run s b).rest.length + c.length : ℕ) : Int) ≤ limit ∧ Fits limit s (b ++ c) cs

instance decidableFits (limit : Int) (s : σ) :
    (b : List β) → (cs : List (List β)) → Decidable (d.Fits limit s b cs)
  | _, [] => isTrue trivial
  | b, c :: cs =>
    have := decidableFits limit s (b ++ c) cs
    inferInstanceAs (Decidable (_ ∨ _))

variable {d} {s s' : σ} {a b c : List β} {n : ℕ}

theorem length_drop_lt_of_take (h : d.step s b = .take n s') : (b.drop n).length < b.length := by
  have hpos := d.take_pos h
  have hle := d.take_le h
  rw [List.length_drop]
  omega

/-- Any amount of fuel above the number of symbols gives the run. -/
theorem runFuel_eq_run {fuel : ℕ} (hfuel : b.length < fuel) : d.runFuel fuel s b = d.run s b := by
  -- both fuels exceed the number of symbols, which every decision makes smaller
  suffices h : ∀ fuel' : ℕ, b.length < fuel' → d.runFuel fuel s b = d.runFuel fuel' s b from
    h _ (Nat.lt_succ_self _)
  induction fuel generalizing s b with
  | zero => omega
  | succ fuel ih =>
    intro fuel' hfuel'
    obtain ⟨k, rfl⟩ : ∃ k, fuel' = k + 1 := ⟨fuel' - 1, by omega⟩
    simp only [runFuel]
    cases h : d.step s b with
    | more => rfl
    | take n s' =>
      have hlt := length_drop_lt_of_take h
      exact ih (by omega) k (by omega)
    | stop n s' => rfl

theorem run_of_more (h : d.step s b = .more) : d.run s b = ⟨s, b, false⟩ := by
  simp [run, runFuel, h]

theorem run_of_stop (h : d.step s b = .stop n s') : d.run s b = ⟨s', b.drop n, true⟩ := by
  simp [run, runFuel, h]

theorem run_of_take (h : d.step s b = .take n s') : d.run s b = d.run s' (b.drop n) := by
  have hlt := length_drop_lt_of_take h
  rw [run, runFuel, h]
  exact runFuel_eq_run hlt

theorem run_induction {P : σ → List β → Prop}
    (more : ∀ s b, d.step s b = .more → P s b)
    (stop : ∀ s b n s', d.step s b = .stop n s' → P s b)
    (take : ∀ s b n s', d.step s b = .take n s' → P s' (b.drop n) → P s b) (s : σ) (b : List β) :
    P s b := by
  induction hlen : b.length using Nat.strongRecOn generalizing s b with
  | _ len ih =>
    cases h : d.step s b with
    | more => exact more s b h
    | stop n s' => exact stop s b n s' h
    | take n s' =>
      have hlt := length_drop_lt_of_take h
      exact take s b n s' h (ih _ (by omega) s' _ rfl)

/-- What is left over is the end of the input. -/
theorem rest_suffix (s : σ) (b : List β) : (d.run s b).rest <:+ b := by
  induction s, b using d.run_induction with
  | more s b h => exact ⟨[], congrArg Outcome.rest (run_of_more h)⟩
  | stop s b n s' h =>
    rw [run_of_stop h]
    exact List.drop_suffix n b
  | take s b n s' h ih =>
    rw [run_of_take h]
    exact ih.trans (List.drop_suffix n b)

/-- More symbols continue a run where it waited, and change nothing once it ended. -/
theorem run_append (s : σ) (a c : List β) : d.run s (a ++ c) = d.feed (d.run s a) c := by
  induction s, a using d.run_induction with
  | more s a h => simp [run_of_more h, feed]
  | stop s a n s' h =>
    have h' := d.step_append c (s := s) (b := a) (by simp [h])
    rw [h] at h'
    rw [run_of_stop h', run_of_stop h, List.drop_append_of_le_length (d.stop_le h)]
    rfl
  | take s a n s' h ih =>
    have h' := d.step_append c (s := s) (b := a) (by simp [h])
    rw [h] at h'
    rw [run_of_take h', run_of_take h, List.drop_append_of_le_length (d.take_le h)]
    exact ih

/-- A decoder that ended stays ended, in the same state. -/
theorem run_append_of_stopped (h : (d.run s a).stopped = true) :
    d.run s (a ++ c) = { d.run s a with rest := (d.run s a).rest ++ c } := by
  rw [run_append, feed, if_pos h]

/-- Pieces that fit all together fit one after the other. -/
theorem fits_of_length_le {limit : Int} {cs : List (List β)}
    (h : ((b ++ cs.flatten).length : Int) ≤ limit) : d.Fits limit s b cs := by
  induction cs generalizing b with
  | nil => trivial
  | cons c cs ih =>
    rw [List.flatten_cons, ← List.append_assoc] at h
    have hrest := (rest_suffix (d := d) s b).length_le
    refine .inr ⟨?_, ih h⟩
    rw [List.length_append, List.length_append] at h
    omega

/-- A run goes on from what it left over. -/
theorem run_rest_append (h : (d.run s a).stopped = false) :
    d.run (d.run s a).state ((d.run s a).rest ++ c) = d.run s (a ++ c) := by
  rw [run_append s a, feed, if_neg (by simp [h])]

end Decoder

/-! ## Receivers -/

/-- A receiver in a state `κ`: what a piece does to it and whether it goes on, the state of its
decoder and the symbols it keeps. -/
structure Receiver (β σ κ : Type*) where
  read : κ → List β → κ × Bool
  state : κ → σ
  pending : κ → List β

namespace Receiver

variable {β σ κ : Type*} (r : Receiver β σ κ)

/-- Pieces arrive one after the other, until the receiver gives up. -/
def readAll : κ → List (List β) → κ × Bool
  | k, [] => (k, true)
  | k, c :: cs =>
    match r.read k c with
    | (k', true) => readAll k' cs
    | (k', false) => (k', false)

/-- The pieces up to the one at which the receiver gives up. -/
def fed : κ → List (List β) → List (List β)
  | _, [] => []
  | k, c :: cs =>
    match r.read k c with
    | (k', true) => c :: fed k' cs
    | (_, false) => [c]

/-- The receiver handles a piece as the decoder `d` handles what was kept and what arrived, and gives
up without a change of state if that exceeds `limit`. -/
structure Follows (d : Decoder β σ) (limit : Int) (Inv : κ → Prop) : Prop where
  exceeds : ∀ {k} (c), Inv k → limit < (((r.pending k).length + c.length : ℕ) : Int) →
    (r.read k c).2 = false ∧ r.state (r.read k c).1 = r.state k
  fits : ∀ {k} (c), Inv k → (((r.pending k).length + c.length : ℕ) : Int) ≤ limit →
    let o := d.run (r.state k) (r.pending k ++ c)
    (r.read k c).2 = !o.stopped ∧ r.state (r.read k c).1 = o.state ∧
      (o.stopped = false → r.pending (r.read k c).1 = o.rest ∧ Inv (r.read k c).1)

variable {r} {d : Decoder β σ} {limit : Int} {Inv : κ → Prop} {k : κ} {s : σ} {b : List β}

/-- What successful reads keep holds of the pieces received; the piece at which the receiver gives up
is looked at once. -/
theorem readAll_rule {P Q : List β → κ → Prop}
    (step : ∀ b k c, P b k → (r.read k c).2 = true → P (b ++ c) (r.read k c).1)
    (fail : ∀ b k c, P b k → (r.read k c).2 = false → Q (b ++ c) (r.read k c).1)
    (h : P b k) (cs : List (List β)) :
    ((r.readAll k cs).2 = true → P (b ++ (r.fed k cs).flatten) (r.readAll k cs).1) ∧
      ((r.readAll k cs).2 = false → Q (b ++ (r.fed k cs).flatten) (r.readAll k cs).1) := by
  induction cs generalizing b k with
  | nil => simpa [readAll, fed] using h
  | cons c cs ih =>
    have hstep := step b k c h
    have hfail := fail b k c h
    simp only [readAll, fed]
    rcases hread : r.read k c with ⟨k', _ | _⟩
    · rw [hread] at hfail
      simpa using hfail rfl
    · rw [hread] at hstep
      simp only [List.flatten_cons, ← List.append_assoc]
      exact ih (hstep rfl)

/-- Receivers that agree on every piece, in states with an invariant, agree on all pieces. -/
theorem readAll_congr {r r' : Receiver β σ κ} {Inv : κ → Prop}
    (hread : ∀ k c, Inv k → r.read k c = r'.read k c ∧ Inv (r'.read k c).1) {k : κ} (hk : Inv k)
    (cs : List (List β)) : r.readAll k cs = r'.readAll k cs := by
  induction cs generalizing k with
  | nil => rfl
  | cons c cs ih =>
    obtain ⟨heq, hinv⟩ := hread k c hk
    rw [readAll, readAll, heq]
    rcases hr : r'.read k c with ⟨k', _ | _⟩
    · rfl
    · rw [hr] at hinv
      exact ih hinv

/-- Where the receiver and the decoder stand after the input `b`. -/
structure Synced (r : Receiver β σ κ) (d : Decoder β σ) (s : σ) (b : List β) (k : κ) : Prop where
  state : r.state k = (d.run s b).state
  pending : r.pending k = (d.run s b).rest
  waits : (d.run s b).stopped = false

variable {cs : List (List β)}

section

variable (hr : r.Follows d limit Inv) (hk : Inv k) (hs : Synced r d s b k)
include hr hk hs

/-- A piece that fits takes the receiver to where the decoder is with it. -/
theorem Follows.read_synced (c : List β)
    (hfits : (((d.run s b).rest.length + c.length : ℕ) : Int) ≤ limit) :
    (r.read k c).2 = !(d.run s (b ++ c)).stopped ∧
      r.state (r.read k c).1 = (d.run s (b ++ c)).state ∧
      ((d.run s (b ++ c)).stopped = false →
        Synced r d s (b ++ c) (r.read k c).1 ∧ Inv (r.read k c).1) := by
  rw [← hs.pending] at hfits
  have h := hr.fits c hk hfits
  rw [hs.state, hs.pending, Decoder.run_rest_append hs.waits] at h
  obtain ⟨hok, hstate, hopen⟩ := h
  refine ⟨hok, hstate, fun hwaits => ?_⟩
  obtain ⟨hpending, hinv⟩ := hopen hwaits
  exact ⟨⟨hstate, hpending, hwaits⟩, hinv⟩

/-- Pieces that fit are one run of the decoder on their concatenation. -/
theorem Follows.readAll_fits (hfits : d.Fits limit s b cs) :
    (r.readAll k cs).2 = !(d.run s (b ++ cs.flatten)).stopped ∧
      r.state (r.readAll k cs).1 = (d.run s (b ++ cs.flatten)).state ∧
      ((d.run s (b ++ cs.flatten)).stopped = false →
        r.pending (r.readAll k cs).1 = (d.run s (b ++ cs.flatten)).rest) := by
  induction cs generalizing b k with
  | nil =>
    rw [List.flatten_nil, List.append_nil, hs.waits]
    exact ⟨rfl, hs.state, fun _ => hs.pending⟩
  | cons c cs ih =>
    rcases hfits with hstop | ⟨hc, hcs⟩
    · rw [hs.waits] at hstop
      cases hstop
    · obtain ⟨hok, hstate, hopen⟩ := hr.read_synced hk hs c hc
      rw [List.flatten_cons, ← List.append_assoc, readAll]
      rcases hread : r.read k c with ⟨k', _ | _⟩
      · -- the decoder ended with this piece: what comes after it changes nothing
        rw [hread] at hok hstate
        have hstop : (d.run s (b ++ c)).stopped = true := by simpa using hok.symm
        rw [Decoder.run_append_of_stopped hstop]
        exact ⟨hok, hstate, fun hwaits => by simp [hstop] at hwaits⟩
      · rw [hread] at hok hopen
        obtain ⟨hs', hk'⟩ := hopen (by simpa using hok.symm)
        exact ih hk' hs' hcs

/-- Two cuts of one input into pieces that fit make no difference. -/
theorem Follows.readAll_eq_of_flatten {cs' : List (List β)} (hflat : cs.flatten = cs'.flatten)
    (hfits : d.Fits limit s b cs) (hfits' : d.Fits limit s b cs') :
    (r.readAll k cs).2 = (r.readAll k cs').2 ∧
      r.state (r.readAll k cs).1 = r.state (r.readAll k cs').1 ∧
      ((r.readAll k cs).2 = true → r.pending (r.readAll k cs).1 = r.pending (r.readAll k cs').1) := by
  obtain ⟨hok, hstate, hpending⟩ := hr.readAll_fits hk hs hfits
  obtain ⟨hok', hstate', hpending'⟩ := hr.readAll_fits hk hs hfits'
  rw [← hflat] at hok' hstate' hpending'
  refine ⟨hok.trans hok'.symm, hstate.trans hstate'.symm, fun hgoes => ?_⟩
  have hwaits : (d.run s (b ++ cs.flatten)).stopped = false := by simpa [hgoes] using hok
  exact (hpending hwaits).trans (hpending' hwaits).symm

/-- A receiver goes on through all pieces exactly when they fit and the decoder does not end. -/
theorem Follows.readAll_iff :
    (r.readAll k cs).2 = true ↔
      d.Fits limit s b cs ∧ (d.run s (b ++ cs.flatten)).stopped = false := by
  constructor
  · intro hok
    suffices hfits : d.Fits limit s b cs by
      refine ⟨hfits, ?_⟩
      have h := (hr.readAll_fits hk hs hfits).1
      simpa [hok] using h
    induction cs generalizing b k with
    | nil => trivial
    | cons c cs ih =>
      have hc : (((d.run s b).rest.length + c.length : ℕ) : Int) ≤ limit := by
        by_contra hexceeds
        rw [← hs.pending] at hexceeds
        have hfail := (hr.exceeds c hk (by omega)).1
        rw [readAll, show r.read k c = ((r.read k c).1, false) from Prod.ext rfl hfail] at hok
        cases hok
      obtain ⟨hread, -, hopen⟩ := hr.read_synced hk hs c hc
      rw [readAll] at hok
      rcases heq : r.read k c with ⟨k', _ | _⟩
      · rw [heq] at hok
        cases hok
      · rw [heq] at hok hread hopen
        obtain ⟨hs', hk'⟩ := hopen (by simpa using hread.symm)
        exact .inr ⟨hc, ih hk' hs' hok⟩
  · rintro ⟨hfits, hwaits⟩
    have h := (hr.readAll_fits hk hs hfits).1
    simpa [hwaits] using h

end

end Receiver
