/-
  FabEdge.Operator.APIServer — `runAPIServer` (lines 430–455), the runnable `RunManager` adds on
  a host: it serves the federation API from a goroutine, and waits in a `select` for that
  goroutine to report an error or for the manager's context to be cancelled.

  The two goroutines and the context make a small state machine.  The server goroutine serves
  until `ListenAndServeTLS` returns, then sends any error other than `http.ErrServerClosed` on the
  unbuffered `errChan`.  `runAPIServer` returns through whichever case of its `select` it takes;
  when both are ready, Go may take either.  `RunAPIServerStep` is one step of either goroutine,
  or the cancellation, in any order; a run is any sequence of them from `APIServerRun.start`.

  Main results:
    * `runAPIServer_select` — in every run, `runAPIServer` returns `context canceled` once the
      context is cancelled, or an error `ListenAndServeTLS` returned, never `ErrServerClosed`;
      when both cases of its `select` are ready, each return is reachable,
    * `runAPIServer_leaks_sender` — once it has returned, an error the server goroutine sends is
      never received: that goroutine stays blocked on `errChan` for good.

  `runAPIServer` calls neither `Shutdown` nor `Close`, so no step stops the server: after a
  cancellation it serves on until `ListenAndServeTLS` fails by itself.
-/
import Mathlib.Logic.Relation

namespace FabEdge.Operator

open Relation

/-- What `ListenAndServeTLS` returns: never nil, and `http.ErrServerClosed` after a `Shutdown` or
    `Close` of the server. -/
inductive ServeResult where
  | serverClosed
  | failed (err : String)
  deriving DecidableEq, Repr

/-- Where the goroutine of lines 433–439 is. -/
inductive ServerGoroutine where
  /-- in `ListenAndServeTLS` -/
  | serving
  /-- blocked on `errChan <- err` -/
  | sending (err : String)
  /-- returned -/
  | done
  deriving DecidableEq, Repr

/-- The two goroutines of `runAPIServer`, and the manager's context. -/
structure APIServerRun where
  server : ServerGoroutine
  /-- what `ListenAndServeTLS` has returned, once it has -/
  served : Option ServeResult
  /-- what `runAPIServer` has returned, once it has -/
  returned : Option String
  /-- the context has been cancelled -/
  cancelled : Bool
  deriving DecidableEq, Repr

/-- `ctx.Err()` of a cancelled context, `context.Canceled`. -/
def contextCanceled : String := "context canceled"

/-- `runAPIServer` has started the server goroutine and waits in its `select`. -/
def APIServerRun.start : APIServerRun := ⟨.serving, none, none, false⟩

/-- One step of `runAPIServer`, of its server goroutine, or of the manager. -/
inductive RunAPIServerStep : APIServerRun → APIServerRun → Prop where
  /-- `ListenAndServeTLS` returns `ErrServerClosed` (line 435), which is not sent (line 436). -/
  | serverClosed {s : APIServerRun} (h : s.server = .serving) :
      RunAPIServerStep s { s with server := .done, served := some .serverClosed }
  /-- `ListenAndServeTLS` returns another error (line 435), to be sent on `errChan` (line 437). -/
  | serverFailed {s : APIServerRun} (err : String) (h : s.server = .serving) :
      RunAPIServerStep s { s with server := .sending err, served := some (.failed err) }
  /-- The manager cancels the context. -/
  | cancel {s : APIServerRun} : RunAPIServerStep s { s with cancelled := true }
  /-- `case err = <-errChan` (lines 443–446): the error is received and returned. -/
  | receive {s : APIServerRun} {err : String} (hs : s.returned = none)
      (h : s.server = .sending err) :
      RunAPIServerStep s { s with server := .done, returned := some err }
  /-- `case <-ctx.Done()` (lines 447–448): `ctx.Err()` is returned. -/
  | ctxDone {s : APIServerRun} (hs : s.returned = none) (h : s.cancelled = true) :
      RunAPIServerStep s { s with returned := some contextCanceled }

/-- The states some run reaches. -/
def APIServerRun.Reachable (s : APIServerRun) : Prop :=
  ReflTransGen RunAPIServerStep .start s

/-! ## What every run keeps. -/

/-- What every reachable state satisfies: the server goroutine is where its result puts it, and
    `runAPIServer` has returned the context's error or one the server sent. -/
structure APIServerRun.Inv (s : APIServerRun) : Prop where
  serving : s.server = .serving → s.served = none
  sending : ∀ {err}, s.server = .sending err → s.served = some (.failed err)
  returned : ∀ {r}, s.returned = some r →
    (r = contextCanceled ∧ s.cancelled = true) ∨ s.served = some (.failed r)

theorem inv_start : APIServerRun.start.Inv where
  serving _ := rfl
  sending h := nomatch h
  returned h := nomatch h

theorem inv_step {s t : APIServerRun} (hs : s.Inv) (h : RunAPIServerStep s t) : t.Inv := by
  cases h with
  | serverClosed hserv =>
      refine ⟨nofun, nofun, fun hr => .inl ?_⟩
      simpa [hs.serving hserv] using hs.returned hr
  | serverFailed err hserv =>
      refine ⟨nofun, fun h => by cases h; rfl, fun hr => .inl ?_⟩
      simpa [hs.serving hserv] using hs.returned hr
  | cancel =>
      refine ⟨hs.serving, hs.sending, fun hr => ?_⟩
      rcases hs.returned hr with ⟨rfl, -⟩ | h
      · exact .inl ⟨rfl, rfl⟩
      · exact .inr h
  | receive _ hsend =>
      refine ⟨nofun, nofun, fun hr => .inr ?_⟩
      cases hr
      exact hs.sending hsend
  | ctxDone _ hc =>
      refine ⟨hs.serving, hs.sending, fun hr => .inl ⟨?_, hc⟩⟩
      cases hr
      rfl

theorem APIServerRun.Reachable.inv {s : APIServerRun} (h : s.Reachable) : s.Inv := by
  induction h with
  | refl => exact inv_start
  | tail _ hst ih => exact inv_step ih hst

/-- In every run, what `runAPIServer` returns is `context canceled`, once the context is
    cancelled, or an error other than `ErrServerClosed` that `ListenAndServeTLS` returned. -/
theorem runAPIServer_returned {s : APIServerRun} (h : s.Reachable) {r : String}
    (hr : s.returned = some r) :
    (r = contextCanceled ∧ s.cancelled = true) ∨ s.served = some (.failed r) :=
  h.inv.returned hr

/-- When both cases of the `select` are ready, either can be taken: from the same reachable
    state, one step returns the context's error and another the server's. -/
theorem select_both_ready {s : APIServerRun} (h : s.Reachable) {err : String}
    (hr : s.returned = none) (hc : s.cancelled = true) (he : s.server = .sending err) :
    ({ s with returned := some contextCanceled } : APIServerRun).Reachable ∧
      ({ s with server := .done, returned := some err } : APIServerRun).Reachable :=
  ⟨h.tail (.ctxDone hr hc), h.tail (.receive hr he)⟩

/-- **What `runAPIServer` returns.**  In every run, what it returns is `context canceled`, once
    the context is cancelled, or an error other than `ErrServerClosed` that `ListenAndServeTLS`
    returned; and from a reachable state where both cases of the `select` are ready, each of the
    two returns is reachable. -/
theorem runAPIServer_select {s : APIServerRun} (h : s.Reachable) :
    (∀ {r}, s.returned = some r →
      (r = contextCanceled ∧ s.cancelled = true) ∨ s.served = some (.failed r)) ∧
    ∀ {err}, s.returned = none → s.cancelled = true → s.server = .sending err →
      ({ s with returned := some contextCanceled } : APIServerRun).Reachable ∧
        ({ s with server := .done, returned := some err } : APIServerRun).Reachable :=
  ⟨runAPIServer_returned h, select_both_ready h⟩

/-- An error `ListenAndServeTLS` can return: its listener failed. -/
def acceptError : String := "accept tcp [::]:3030: too many open files"

/-- The context is cancelled, then the server fails: both cases of the `select` are ready. -/
def bothReadyRun : APIServerRun := ⟨.sending acceptError, some (.failed acceptError), none, true⟩

theorem runAPIServer_select_bothReady :
    bothReadyRun.Reachable ∧ bothReadyRun.returned = none ∧ bothReadyRun.cancelled = true ∧
      bothReadyRun.server = .sending acceptError ∧
      ({ bothReadyRun with returned := some contextCanceled } : APIServerRun).Reachable ∧
      ({ bothReadyRun with server := .done, returned := some acceptError } : APIServerRun).Reachable :=
  have h : bothReadyRun.Reachable :=
    (ReflTransGen.single (.cancel (s := .start))).tail
      (.serverFailed (s := ⟨.serving, none, none, true⟩) acceptError rfl)
  ⟨h, rfl, rfl, rfl, (runAPIServer_select h).2 rfl rfl rfl⟩

/-! ## After `runAPIServer` has returned. -/

/-- Once `runAPIServer` has returned, a step changes neither what it returned nor where the server
    goroutine is, unless that goroutine is still serving. -/
theorem step_of_returned {s t : APIServerRun} (hs : s.returned ≠ none)
    (h : RunAPIServerStep s t) :
    t.returned = s.returned ∧ (s.server = .serving ∨ t.server = s.server) := by
  cases h with
  | serverClosed hserv | serverFailed _ hserv => exact ⟨rfl, .inl hserv⟩
  | cancel => exact ⟨rfl, .inr rfl⟩
  | receive hr _ | ctxDone hr _ => exact absurd hr hs

/-- **A goroutine leak.**  Once `runAPIServer` has returned, an error the server goroutine sends is
    never received: whatever happens next, the goroutine stays blocked on `errChan`. -/
theorem runAPIServer_leaks_sender {s t : APIServerRun} (hs : s.returned ≠ none) {err : String}
    (he : s.server = .sending err) (h : ReflTransGen RunAPIServerStep s t) :
    t.server = .sending err := by
  suffices t.returned = s.returned ∧ t.server = .sending err from this.2
  induction h with
  | refl => exact ⟨rfl, he⟩
  | tail _ hst ih =>
      obtain ⟨hr, hserv⟩ := step_of_returned (ih.1 ▸ hs) hst
      rcases hserv with h | h
      · exact absurd (ih.2.symm.trans h) nofun
      · exact ⟨hr.trans ih.1, h.trans ih.2⟩

/-- The context is cancelled and `runAPIServer` returns; then the server fails. -/
def leakedRun : APIServerRun :=
  ⟨.sending acceptError, some (.failed acceptError), some contextCanceled, true⟩

theorem runAPIServer_leaks_sender_cancelled :
    leakedRun.Reachable ∧ leakedRun.returned ≠ none ∧ leakedRun.server = .sending acceptError ∧
      ∀ t, ReflTransGen RunAPIServerStep leakedRun t → t.server = .sending acceptError :=
  have hc : (⟨.serving, none, some contextCanceled, true⟩ : APIServerRun).Reachable :=
    (ReflTransGen.single (.cancel (s := .start))).tail (.ctxDone rfl rfl)
  ⟨hc.tail (.serverFailed acceptError rfl), by decide, rfl,
    fun _ h => runAPIServer_leaks_sender (by decide) rfl h⟩

end FabEdge.Operator
