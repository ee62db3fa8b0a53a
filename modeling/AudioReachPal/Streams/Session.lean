import AudioReachPal.Streams.Pcm

/-!
# The session of a stream

What the calls of a stream make of its session, seen from the session: whether it is open, started,
and paused. The calls that a device or the resource manager gets are silent to it.
-/

namespace AudioReachPal.Streams

/-- A session that is started is running; only a running session is paused. -/
structure Session where
  opened : Bool := false
  started : Bool := false
  paused : Bool := false
  deriving DecidableEq, Repr

namespace Session

/-- A call that fails does nothing to the session. -/
def after (x : Session) : Call → Session
  | .sessionOpen status => if status = 0 then { opened := true } else x
  | .sessionClose => {}
  | .sessionStart status => if status = 0 then { x with started := true, paused := false } else x
  | .sessionStop => { x with started := false, paused := false }
  | .sessionPause status => if status = 0 then { x with paused := x.started } else x
  | .sessionResume status => if status = 0 then { x with paused := false } else x
  | _ => x

end Session

/-- The call does not change the session. -/
def Call.silent : Call → Bool
  | .sessionOpen _ | .sessionClose | .sessionStart _ | .sessionStop | .sessionPause _
  | .sessionResume _ => false
  | _ => true

/-- The session after the calls. -/
def session (calls : List Call) : Session := calls.foldl Session.after {}

theorem session_append (calls new : List Call) :
    session (calls ++ new) = new.foldl Session.after (session calls) := List.foldl_append

theorem Session.foldl_of_silent {new : List Call} (h : ∀ c ∈ new, c.silent) (x : Session) :
    new.foldl Session.after x = x := by
  induction new with
  | nil => rfl
  | cons c new ih =>
    have hc : x.after c = x := by
      have hsilent := h c List.mem_cons_self
      cases c <;> first | rfl | cases hsilent
    rw [List.foldl_cons, hc]
    exact ih fun b hb => h b (List.mem_cons_of_mem _ hb)

theorem session_append_of_silent {new : List Call} (h : ∀ c ∈ new, c.silent) (calls : List Call) :
    session (calls ++ new) = session calls := by
  rw [session_append, Session.foldl_of_silent h]

@[simp] theorem session_append_map {α : Type} {f : α → Call} (h : ∀ x, (f x).silent)
    (calls : List Call) (xs : List α) : session (calls ++ xs.map f) = session calls := by
  refine session_append_of_silent ?_ calls
  intro c hc
  obtain ⟨x, -, rfl⟩ := List.mem_map.mp hc
  exact h x

theorem session_append_one (calls : List Call) (c : Call) :
    session (calls ++ [c]) = (session calls).after c := session_append calls [c]

end AudioReachPal.Streams
