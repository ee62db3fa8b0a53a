import Mathlib.Data.List.Perm.Basic

/-!
# Messages in flight

A sender hands its messages over one after another; each is delivered at some later time, and
nothing makes the deliveries keep the order. `sent` has the delivered messages and then those in
flight. A delivery only permutes it, and leaves the messages of a kind in place when the delivered
one is the oldest of the kind.
-/

namespace AudioReachPal.Lib

variable {μ : Type*} [DecidableEq μ]

/-- The messages in flight, in the order of their sending, and the delivered ones. -/
structure Channel (μ : Type*) where
  inFlight : List μ := []
  delivered : List μ := []

namespace Channel

variable (c : Channel μ) (m : μ)

def send : Channel μ := { c with inFlight := c.inFlight ++ [m] }

def deliver : Channel μ where
  inFlight := c.inFlight.erase m
  delivered := c.delivered ++ [m]

def sent : List μ := c.delivered ++ c.inFlight

/-- No older message of the kind `p` is in flight. -/
def Oldest (p : μ → Bool) : Prop := p m = true → (c.inFlight.filter p).head? = some m

variable {c m}

omit [DecidableEq μ] in
theorem sent_send : (c.send m).sent = c.sent ++ [m] := by
  simp [sent, send]

omit [DecidableEq μ] in
theorem sent_of_inFlight_nil (h : c.inFlight = []) : c.sent = c.delivered := by
  rw [sent, h, List.append_nil]

theorem sent_deliver_perm (h : m ∈ c.inFlight) : (c.deliver m).sent.Perm c.sent := by
  unfold sent deliver
  rw [List.append_assoc]
  exact (List.perm_cons_erase h).symm.append_left _

/-- A delivery in order leaves the messages of the kind as they were sent. -/
theorem filter_sent_deliver {p : μ → Bool} (h : c.Oldest m p) :
    (c.deliver m).sent.filter p = c.sent.filter p := by
  unfold sent deliver
  rw [List.append_assoc, List.filter_append, List.filter_append, List.filter_append,
    ← List.erase_filter]
  congr 1
  by_cases hm : p m = true
  · obtain ⟨rest, hrest⟩ := List.head?_eq_some_iff.mp (h hm)
    simp [hm, hrest]
  · have hnot : m ∉ c.inFlight.filter p := fun hmem => hm (List.mem_filter.mp hmem).2
    rw [List.erase_of_not_mem hnot]
    simp [hm]

end Channel

end AudioReachPal.Lib
