/-
  Namebook.Proofs.Service.Proper
  ──────────────────────────────
  **WHAT SERVICES ASK FOR — only proper names reach the store.**

  Repositories take any text; services do not.  `Request.Proper` says that a request creates nothing
  under a blank or reserved alias and no document without a generated public id, and
  `proper_dialogue` that services make no other requests, whatever is answered.
-/
import Namebook.Proofs.Spelling
import Namebook.Proofs.Service.Client

namespace Namebook

/-- A request as services make it. -/
def Request.Proper (reserved : ReservedNames) : Request → Prop
  | createAlias _ name => Call.checkName reserved name = .ok ()
  | createDocument publicId initial =>
    PublicId.isShaped publicId = true ∧ ∀ name ∈ initial, Call.checkName reserved name = .ok ()
  | _ => True

/-- A step that makes no request but a proper one. -/
def Exchange.Proper (reserved : ReservedNames) : Exchange → Prop
  | asked r _ => r.Proper reserved
  | _ => True

namespace Call

/-- Only requests in `P` are asked. -/
def Asks {α : Type} (P : Request → Prop) (es : List Exchange) (_ : Except ServiceError α) : Prop :=
  ∀ r a, Exchange.asked r a ∈ es → P r

end Call

/-! ## §1. The six calls. -/

open Call

namespace AliasService

variable (reserved : ReservedNames) (publicId name : String)

theorem each_checkNew : (checkNew reserved name).Ends (Each (Exchange.Proper reserved)) := by
  rw [checkNew_eq]
  exact each_checked (each_ofAnswer fun _ => trivial) (each_ofAnswer fun _ => trivial)

theorem passed_checkNew :
    (checkNew reserved name).Ends (Passed fun _ => checkName reserved name = .ok ()) := by
  rw [checkNew_eq]
  exact passed_checked

/-- The creation is asked for after the check only. -/
theorem each_add : (add reserved publicId name).Ends (Each (Exchange.Proper reserved)) := by
  unfold add
  refine each_logged ?_ fun _ => trivial
  refine each_bind_of_passed (each_checkNew reserved name) (passed_checkNew reserved name)
    fun _ hname => each_report ?_ fun _ => trivial
  exact each_create (fun _ => hname) fun _ => trivial

theorem each_remove : (remove publicId name).Ends (Each (Exchange.Proper reserved)) := by
  unfold remove
  refine each_logged (each_report ?_ fun _ => trivial) fun _ => trivial
  exact each_ofAnswer fun _ => trivial

theorem each_promote : (promote publicId name).Ends (Each (Exchange.Proper reserved)) := by
  unfold promote
  refine each_logged (each_report ?_ fun _ => trivial) fun _ => trivial
  exact each_promoteFrom (fun _ => trivial) (fun _ _ => trivial) 1 _

theorem each_view : (view publicId name).Ends (Each (Exchange.Proper reserved)) := by
  unfold view
  refine each_logged (each_bind (each_ofAnswer fun _ => trivial) fun found => ?_) fun _ => trivial
  split
  · exact each_pure _
  · exact each_throw _

end AliasService

namespace DocumentService

variable (reserved : ReservedNames)

theorem each_resolve (name : String) :
    (resolve name).Ends (Each (Exchange.Proper reserved)) := by
  unfold resolve
  refine each_logged (each_bind (each_ofAnswer fun _ => trivial) fun found => ?_) fun _ => trivial
  split
  · exact each_pure _
  · refine each_bind (each_ofAnswer fun _ => trivial) fun found => ?_
    split
    · exact each_pure _
    · exact each_throw _

/-- Every draw asks for a document under a generated public id. -/
theorem each_createFrom {initial : Option String}
    (hinitial : ∀ name ∈ initial, checkName reserved name = .ok ()) (attempt left : Nat) :
    (createFrom initial attempt left).Ends (Each (Exchange.Proper reserved)) := by
  induction left generalizing attempt with
  | zero => exact each_fail trivial
  | succ left ih =>
    unfold createFrom
    refine each_bind (each_block fun _ => trivial) fun block => ?_
    -- all that is used of the id from here on is its shape
    have hshaped := PublicId.isShaped_encode block
    generalize PublicId.encode block = publicId at hshaped
    refine each_bind (each_request fun _ => ⟨hshaped, hinitial⟩) fun answer => ?_
    split
    · exact each_bind (each_log trivial) fun _ => each_pure _
    · split
      · exact each_bind (each_log trivial) fun _ => ih (attempt + 1)
      · exact each_bind (each_ofAnswer fun _ => trivial) fun found => each_fail trivial
    · exact each_fail trivial

theorem each_loggedInitial (name : String) :
    (logged createEvent "-" name (checkInitial reserved name)).Ends
      (Each (Exchange.Proper reserved)) := by
  rw [checkInitial_eq]
  refine each_logged (each_checked ?_ ?_) fun _ => trivial
  · exact each_ofAnswer fun _ => trivial
  · exact each_ofAnswer fun _ => trivial

/-- The record of a rejected name does not turn the rejection into a success. -/
theorem passed_loggedInitial (name : String) :
    (logged createEvent "-" name (checkInitial reserved name)).Ends
      (Passed fun _ => checkName reserved name = .ok ()) := by
  rw [checkInitial_eq]
  exact passed_logged passed_checked

theorem each_create (initial : Option String) :
    (create reserved initial).Ends (Each (Exchange.Proper reserved)) := by
  unfold create
  cases initial with
  | none => exact each_createFrom reserved (fun name h => by cases h) 1 createAttempts
  | some name =>
    refine each_bind_of_passed (each_loggedInitial reserved name)
      (passed_loggedInitial reserved name) fun _ hcheck => ?_
    refine each_createFrom reserved (fun name' h => ?_) 1 createAttempts
    injection h with h
    rw [← h]
    exact hcheck

end DocumentService

theorem ServiceCall.each_dialogue (reserved : ReservedNames) (s : ServiceCall) :
    (s.dialogue reserved).Ends (Each (Exchange.Proper reserved)) := by
  cases s with
  | add p n => exact AliasService.each_add reserved p n
  | remove p n => exact AliasService.each_remove reserved p n
  | promote p n => exact AliasService.each_promote reserved p n
  | view p n => exact AliasService.each_view reserved p n
  | resolve n => exact DocumentService.each_resolve reserved n
  | create initial => exact DocumentService.each_create reserved initial

/-- **Services make proper requests only.** -/
theorem ServiceCall.proper_dialogue (reserved : ReservedNames) (s : ServiceCall) :
    (s.dialogue reserved).Ends (Asks (Request.Proper reserved)) :=
  (s.each_dialogue reserved).mono fun _ _ hes _ _ hmem => hes _ hmem

end Namebook
