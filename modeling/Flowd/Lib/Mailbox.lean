import Mathlib.Data.List.Basic

namespace Flowd

/-! Mailboxes as an IMAP session sees them. -/

structure Mail where
  uid : Nat
  body : List UInt8
  seen : Bool
  deleted : Bool
deriving DecidableEq, Repr

/-- The UIDs are ascending, and a mail that arrives gets a new one. -/
structure Mailbox where
  mails : List Mail
  uidNext : Nat
  ascending : mails.Pairwise fun earlier later => earlier.uid < later.uid
  below : ∀ mail ∈ mails, mail.uid < uidNext

namespace Mailbox

variable (mailbox : Mailbox)

def empty : Mailbox := ⟨[], 1, .nil, fun mail member => by cases member⟩

def arrive (body : List UInt8) (seen deleted : Bool) : Mailbox where
  mails := mailbox.mails ++ [⟨mailbox.uidNext, body, seen, deleted⟩]
  uidNext := mailbox.uidNext + 1
  ascending := by
    rw [List.pairwise_append]
    refine ⟨mailbox.ascending, List.pairwise_singleton _ _, fun mail member new last => ?_⟩
    rw [List.mem_singleton.mp last]
    exact mailbox.below mail member
  below mail member := by
    rcases List.mem_append.mp member with old | new
    · exact Nat.lt_succ_of_lt (mailbox.below mail old)
    · rw [List.mem_singleton.mp new]
      exact Nat.lt_succ_self _

/-- SEARCH UNSEEN -/
def unseen : List Nat := (mailbox.mails.filter fun mail => !mail.seen).map Mail.uid

def fetch (uids : List Nat) : List Mail := mailbox.mails.filter fun mail => uids.contains mail.uid

/-- Some flags are changed. -/
def modify (change : Mail → Mail) (keepsUid : ∀ mail, (change mail).uid = mail.uid) : Mailbox where
  mails := mailbox.mails.map change
  uidNext := mailbox.uidNext
  ascending := by
    rw [List.pairwise_map]
    exact mailbox.ascending.imp fun {earlier later} less => by rw [keepsUid, keepsUid]; exact less
  below mail member := by
    obtain ⟨old, inside, rfl⟩ := List.mem_map.mp member
    rw [keepsUid]
    exact mailbox.below old inside

def see (uids : List Nat) : Mailbox :=
  mailbox.modify (fun mail => { mail with seen := mail.seen || uids.contains mail.uid }) fun _ => rfl

/-- STORE +FLAGS (\Deleted) -/
def flag (uids : List Nat) : Mailbox :=
  mailbox.modify (fun mail => { mail with deleted := mail.deleted || uids.contains mail.uid }) fun _ => rfl

/-- The mails that EXPUNGE removes; those of some UIDs only if it does not get to its end. -/
def removes (only : Option (List Nat)) (mail : Mail) : Bool :=
  mail.deleted && only.all fun uids => uids.contains mail.uid

def removed (only : Option (List Nat)) : List Mail := mailbox.mails.filter (removes only)

def expunge (only : Option (List Nat)) : Mailbox where
  mails := mailbox.mails.filter fun mail => !removes only mail
  uidNext := mailbox.uidNext
  ascending := mailbox.ascending.filter _
  below mail member := mailbox.below mail (List.mem_of_mem_filter member)

/-- Every mail has been there before, and only those of the UIDs may be newly flagged. -/
def Descends (before after : Mailbox) (uids : List Nat) : Prop :=
  ∀ mail ∈ after.mails, ∃ old ∈ before.mails, old.uid = mail.uid ∧ old.body = mail.body ∧
    (mail.deleted = true → old.deleted = true ∨ mail.uid ∈ uids)

variable {mailbox}

theorem Descends.refl (mailbox : Mailbox) : Descends mailbox mailbox [] :=
  fun mail member => ⟨mail, member, rfl, rfl, .inl⟩

theorem Descends.see (mailbox : Mailbox) (uids : List Nat) : Descends mailbox (mailbox.see uids) [] := by
  intro mail member
  obtain ⟨old, inside, rfl⟩ := List.mem_map.mp member
  exact ⟨old, inside, rfl, rfl, .inl⟩

theorem Descends.flag {before : Mailbox} (descends : Descends before mailbox []) (uids : List Nat) :
    Descends before (mailbox.flag uids) uids := by
  intro mail member
  obtain ⟨between, inside, rfl⟩ := List.mem_map.mp member
  obtain ⟨old, first, uid, body, deleted⟩ := descends between inside
  refine ⟨old, first, uid, body, fun flagged => ?_⟩
  rcases Bool.or_eq_true_iff.mp flagged with already | now
  · exact .inl ((deleted already).resolve_right List.not_mem_nil)
  · exact .inr (List.contains_iff_mem.mp now)

theorem Descends.expunge (mailbox : Mailbox) (only : Option (List Nat)) : Descends mailbox (mailbox.expunge only) [] :=
  fun mail member => ⟨mail, List.mem_of_mem_filter member, rfl, rfl, .inl⟩

theorem mem_removed {only : Option (List Nat)} {mail : Mail} (gone : mail ∈ mailbox.removed only) :
    mail ∈ mailbox.mails ∧ mail.deleted = true := by
  obtain ⟨inside, removes⟩ := List.mem_filter.mp gone
  exact ⟨inside, (Bool.and_eq_true_iff.mp removes).1⟩

theorem mem_arrive {body : List UInt8} {seen deleted : Bool} {mail : Mail}
    (member : mail ∈ (mailbox.arrive body seen deleted).mails) : mail ∈ mailbox.mails ∨ mail.deleted = deleted := by
  rcases List.mem_append.mp member with old | new
  · exact .inl old
  · exact .inr (by rw [List.mem_singleton.mp new])

end Mailbox

end Flowd
