import CallsPlugin.Verified.Monitor
import CallsPlugin.Ports.Frames

/-!
# Proof rules for code under the lock of a call

The monitor rule of `Verified.Monitor` at the plugin's operations, and the rules
for the steps all handlers take: a store call, a write that must not fail,
reading the state, and the stopping of jobs.
-/

namespace CallsPlugin.Ports

open CallsPlugin.Verified
open CallsPlugin.Ports.Public CallsPlugin.Ports.Db

/-- What a proof about handlers fixes: the operations that may occur, the lock
invariant and whether an attempt to lock may fail. -/
@[reducible]
def callLogic (allow : Choice → Store → Op → Prop) (inv : Store → Prop)
    (lockMayFail : Prop) :
    Logic Op Op.Resp Store Choice where
  sem := exec
  allow _ := allow
  pre _ _ := True
  inv := inv
  lockMayFail := lockMayFail
  stray := False

section Rules

variable {allow : Choice → Store → Op → Prop} {inv : Store → Prop} {lockMayFail : Prop}

/-- A store call succeeds on the working database, or fails without effect. -/
theorem store_wp {o : StoreOp} {Q : Except String o.Result → Store → Prop} {w : Store}
    (herr : ∀ e, Q (.error e) w)
    (hok : ∀ a, (o.exec w).1 = .ok a → Q (.ok a) (o.exec w).2) :
    (store o).wp (callLogic allow inv lockMayFail) Q w := by
  refine Code.wp_perform.2 ⟨trivial, fun c _ => ?_⟩
  simp only [exec_store]
  cases hf : c.storeFails with
  | true => exact herr _
  | false =>
      rw [attempt_false]
      cases hres : (o.exec w).1 with
      | error e =>
          rw [StoreOp.exec_error hres]
          exact herr e
      | ok a => exact hok a hres

/-- Reading the state gives the stored state, or fails. -/
theorem getCallState_wp {channelID : String} {w : Store}
    {Q : Except String (Option CallState) → Store → Prop}
    (herr : ∀ e, Q (.error e) w) (hok : Q (.ok (storedState w channelID)) w) :
    (getCallState channelID).wp (callLogic allow inv lockMayFail) Q w := by
  refine Code.wp_bind.2 (store_wp (fun e => herr _) fun call hcall => ?_)
  obtain rfl : w.getActiveCallByChannelID channelID = call := Except.ok.inj hcall
  unfold storedState at hok
  cases hget : w.getActiveCallByChannelID channelID with
  | none => rwa [hget] at hok
  | some call =>
      rw [hget] at hok
      refine Code.wp_bind.2
        (Code.wp_bind.2 (store_wp (fun e => herr _) fun sessions hs => ?_))
      cases Except.ok.inj hs
      refine Code.wp_bind.2 (store_wp (fun e => herr _) fun jobs hj => ?_)
      cases Except.ok.inj hj
      exact hok

/-- Code that does not call the store leaves it. -/
theorem silent_wp {α : Type} {c : Body α} {Q : α → Store → Prop} {w : Store}
    (h : c.Only Op.Silent) (hQ : ∀ a, Q a w) :
    c.wp (callLogic allow inv lockMayFail) Q w :=
  Code.wp_mono (h.wp (I := fun w' => w' = w)
    (Code.all_of_forall (Q := fun _ => True) (fun _ => trivial) c)
    (fun _ _ _ _ => trivial) (fun c _ _ ho hs _ => (ho.exec c _).trans hs) rfl)
    fun a _ hw => hw.2 ▸ hQ a

/-- Code that only writes jobs keeps what such writes keep. -/
theorem JobsFrame.wp {α : Type} {cs : CallState} {f : α → CallState} {c : Body α}
    {w : Store} {I : Store → Prop} (h : JobsFrame cs f c)
    (hI : ∀ c s (o : Op), o.JobsOnly → I s → I (exec c s o).2) (hw : I w) :
    c.wp (callLogic allow inv lockMayFail)
      (fun a w' => SameCall cs (f a) ∧ SameRows w w' ∧ I w') w :=
  h.1.wp (I := fun w' => SameRows w w' ∧ I w') h.2 (fun _ _ _ _ => trivial)
    (fun c _ o ho hs _ => ⟨hs.1.trans (ho.sameRows c _), hI c _ o ho hs.2⟩)
    ⟨.refl w, hw⟩

end Rules

end CallsPlugin.Ports
