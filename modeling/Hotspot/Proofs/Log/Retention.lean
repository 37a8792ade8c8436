import Hotspot.Log.Retention

/-!
What pruning deletes is both enough and needed. The running total of the sweep is the total of what
is still there, so that the sweep stops as soon as the rest fits. Main statement: what is left fits
and holds no expired log; nothing but logs was deleted, the oldest first; and without the last
deletion that was not due to age, the rest would not fit.
-/

set_option autoImplicit false
set_option relaxedAutoImplicit false

namespace Hotspot.Log

namespace Item

def LogName (name : String) : Prop :=
  ".log".toList <:+ name.toList ∨ ".log.".toList <:+: name.toList

structure IsLogFile (i : Item) : Prop where
  file : i.size ≠ none
  name : LogName i.name

private theorem occurs_iff {part cs : List Char} : occurs part cs = true ↔ part <:+: cs := by
  induction cs with
  | nil => rw [occurs, List.isEmpty_iff, List.infix_nil]
  | cons c cs ih =>
    rw [occurs, Bool.or_eq_true, List.isPrefixOf_iff_prefix, ih, List.infix_cons_iff]

private theorem isLog_iff {i : Item} : i.isLog = true ↔ i.IsLogFile := by
  have hname : isLogName i.name = true ↔ LogName i.name := by
    rw [isLogName, Bool.or_eq_true, List.isSuffixOf_iff_suffix, occurs_iff]
    rfl
  rw [isLog, Bool.and_eq_true, Option.isSome_iff_ne_none, hname]
  exact ⟨fun h => ⟨h.1, h.2⟩, fun h => ⟨h.file, h.name⟩⟩

end Item

namespace Retention

open Item (IsLogFile isLog_iff)

variable {limit sum : Nat} {items queue : List Item} {i last : Item}

private theorem total_perm {l l' : List Item} (h : l.Perm l') : total l = total l' := by
  induction h with
  | nil => rfl
  | cons i _ ih => rw [total, total, ih]
  | swap i j l =>
    simp only [total]
    omega
  | trans _ _ ih ih' => exact ih.trans ih'

private theorem sweep_append (limit sum : Nat) (queue : List Item) :
    (sweep limit sum queue).1 ++ (sweep limit sum queue).2 = queue := by
  induction queue generalizing sum with
  | nil => rfl
  | cons i queue ih =>
    rw [sweep]
    split
    · rfl
    · rw [List.cons_append, ih]

private theorem sweep_of_le (h : sum ≤ limit) (queue : List Item) :
    sweep limit sum queue = ([], queue) := by
  cases queue with
  | nil => rfl
  | cons i queue => rw [sweep, if_pos h]

private theorem total_cons_sub (i : Item) (queue : List Item) :
    total (i :: queue) - i.octets = total queue := by
  rw [total, Nat.add_sub_cancel_left]

private theorem sweep_cons_of_lt (h : limit < total (i :: queue)) :
    sweep limit (total (i :: queue)) (i :: queue) =
      (i :: (sweep limit (total queue) queue).1, (sweep limit (total queue) queue).2) := by
  rw [sweep, if_neg (Nat.not_le_of_lt h), total_cons_sub]

private theorem total_sweep_le (limit : Nat) (queue : List Item) :
    total (sweep limit (total queue) queue).2 ≤ limit := by
  induction queue with
  | nil => exact Nat.zero_le limit
  | cons i queue ih =>
    rcases Nat.lt_or_ge limit (total (i :: queue)) with hover | hfits
    · rw [sweep_cons_of_lt hover]
      exact ih
    · rw [sweep_of_le hfits]
      exact hfits

private theorem lt_total_sweep_add (h : (sweep limit (total queue) queue).1.getLast? = some last) :
    limit < total (sweep limit (total queue) queue).2 + last.octets := by
  -- By induction on the queue: the last file that goes is the first one, or goes with the rest.
  induction queue with
  | nil => cases h
  | cons i queue ih =>
    rcases Nat.lt_or_ge limit (total (i :: queue)) with hover | hfits
    · rw [sweep_cons_of_lt hover] at h ⊢
      rw [List.getLast?_cons] at h
      cases hgone : (sweep limit (total queue) queue).1.getLast? with
      | none =>
        rw [hgone] at h
        obtain rfl : i = last := Option.some.inj h
        have hall := sweep_append limit (total queue) queue
        rw [List.getLast?_eq_none_iff.mp hgone, List.nil_append] at hall
        rw [hall]
        rw [total] at hover
        omega
      | some later =>
        rw [hgone] at h
        cases h
        exact ih hgone
    · rw [sweep_of_le hfits] at h
      cases h

variable {cutoff : Instant}

def expired (cutoff : Instant) (items : List Item) : List Item :=
  (items.filter Item.isLog).filter fun i => !decide (cutoff ≤ i.modified)

def queued (cutoff : Instant) (items : List Item) : List Item :=
  ((items.filter Item.isLog).filter fun i => cutoff ≤ i.modified).mergeSort
    fun a b => a.modified ≤ b.modified

def swept (cutoff : Instant) (limit : Nat) (items : List Item) : List Item :=
  (sweep limit (total (queued cutoff items)) (queued cutoff items)).1

def spared (cutoff : Instant) (limit : Nat) (items : List Item) : List Item :=
  (sweep limit (total (queued cutoff items)) (queued cutoff items)).2

private theorem swept_append_spared (cutoff : Instant) (limit : Nat) (items : List Item) :
    swept cutoff limit items ++ spared cutoff limit items = queued cutoff items :=
  sweep_append limit (total (queued cutoff items)) (queued cutoff items)

private theorem prune_eq (cutoff : Instant) (limit : Nat) (items : List Item) :
    prune cutoff limit items =
      { left := items.filter (fun i => !i.isLog) ++ spared cutoff limit items
        deleted := expired cutoff items ++ swept cutoff limit items } := by
  have htotal : total (queued cutoff items) =
      total ((items.filter Item.isLog).filter fun i => cutoff ≤ i.modified) :=
    total_perm (List.mergeSort_perm _ _)
  unfold prune swept spared
  rw [List.partition_eq_filter_filter, htotal]
  rfl

private theorem mem_expired_iff : i ∈ expired cutoff items ↔ i ∈ items ∧ i.isLog = true ∧
    i.modified < cutoff := by
  unfold expired
  rw [List.mem_filter, List.mem_filter, Bool.not_eq_true', decide_eq_false_iff_not, Int.not_le,
    and_assoc]

private theorem mem_queued_iff : i ∈ queued cutoff items ↔ i ∈ items ∧ i.isLog = true ∧
    cutoff ≤ i.modified := by
  unfold queued
  rw [List.mem_mergeSort, List.mem_filter, List.mem_filter, decide_eq_true_eq, and_assoc]

private theorem pairwise_queued (cutoff : Instant) (items : List Item) :
    (queued cutoff items).Pairwise fun a b => a.modified ≤ b.modified := by
  have hsorted : (queued cutoff items).Pairwise fun a b => decide (a.modified ≤ b.modified) =
    true :=
    List.pairwise_mergeSort
      (fun a b c hab hbc => by
        simp only [decide_eq_true_eq] at hab hbc ⊢
        exact Int.le_trans hab hbc)
      (fun a b => by
        simp only [Bool.or_eq_true, decide_eq_true_eq]
        exact Int.le_total a.modified b.modified) _
  exact hsorted.imp fun h => of_decide_eq_true h

private theorem perm_parts (cutoff : Instant) (items : List Item) :
    (items.filter (fun i => !i.isLog) ++ (queued cutoff items ++ expired cutoff items)).Perm
      items := by
  have hlogs : (queued cutoff items ++ expired cutoff items).Perm (items.filter Item.isLog) :=
    ((List.mergeSort_perm _ _).append_right _).trans (List.filter_append_perm _ _)
  exact (hlogs.append_left _).trans (List.perm_append_comm.trans (List.filter_append_perm _ _))

private theorem mem_queued_of_mem_swept (h : i ∈ swept cutoff limit items) :
    i ∈ queued cutoff items := by
  rw [← swept_append_spared cutoff limit]
  exact List.mem_append_left _ h

private theorem mem_queued_of_mem_spared (h : i ∈ spared cutoff limit items) :
    i ∈ queued cutoff items := by
  rw [← swept_append_spared cutoff limit]
  exact List.mem_append_right _ h

private theorem mem_left_iff : i ∈ (prune cutoff limit items).left ↔
    (i ∈ items ∧ ¬ i.IsLogFile) ∨ i ∈ spared cutoff limit items := by
  rw [prune_eq, List.mem_append, List.mem_filter, Bool.not_eq_true', ← Bool.not_eq_true, isLog_iff]

private theorem mem_deleted_iff : i ∈ (prune cutoff limit items).deleted ↔
    i ∈ expired cutoff items ∨ i ∈ swept cutoff limit items := by
  rw [prune_eq, List.mem_append]

private theorem mem_swept_of_mem_deleted (h : i ∈ (prune cutoff limit items).deleted)
    (hrecent : cutoff ≤ i.modified) : i ∈ swept cutoff limit items :=
  (mem_deleted_iff.mp h).resolve_left fun hexpired =>
    Int.not_le.mpr (mem_expired_iff.mp hexpired).2.2 hrecent

private theorem filter_left (cutoff : Instant) (limit : Nat) (items : List Item) :
    (prune cutoff limit items).left.filter Item.isLog = spared cutoff limit items := by
  have hothers : (items.filter fun i => !i.isLog).filter Item.isLog = [] := by
    rw [List.filter_eq_nil_iff]
    intro i hi hlog
    rw [List.mem_filter, hlog] at hi
    cases hi.2
  have hspared : ∀ i ∈ spared cutoff limit items, i.isLog = true := fun i hi =>
    (mem_queued_iff.mp (mem_queued_of_mem_spared hi)).2.1
  rw [prune_eq, List.filter_append, hothers, List.nil_append, List.filter_eq_self.mpr hspared]

structure Pruned (cutoff : Instant) (limit : Nat) (items : List Item) (o : Outcome) : Prop where
  accounted : (o.left ++ o.deleted).Perm items
  untouched : ∀ i ∈ items, ¬ i.IsLogFile → i ∈ o.left ∧ i ∉ o.deleted
  expired : ∀ i ∈ items, i.IsLogFile → i.modified < cutoff → i ∈ o.deleted ∧ i ∉ o.left
  oldest : ∀ d ∈ o.deleted, cutoff ≤ d.modified → ∀ i ∈ o.left, i.IsLogFile →
    d.modified ≤ i.modified
  fits : total (o.left.filter Item.isLog) ≤ limit
  needed : (∃ d ∈ o.deleted, cutoff ≤ d.modified) → ∃ last, o.deleted.getLast? = some last ∧
    limit < total (o.left.filter Item.isLog) + last.octets

private theorem pruned_prune (cutoff : Instant) (limit : Nat) (items : List Item) :
    Pruned cutoff limit items (prune cutoff limit items) where
  accounted := by
    refine List.Perm.trans ?_ (perm_parts cutoff items)
    rw [prune_eq, List.append_assoc, ← swept_append_spared cutoff limit, List.append_assoc]
    refine List.Perm.append_left _ ?_
    rw [← List.append_assoc]
    exact List.perm_append_comm
  untouched i hi hother := by
    refine ⟨mem_left_iff.mpr (.inl ⟨hi, hother⟩), fun hdeleted => hother ?_⟩
    rcases mem_deleted_iff.mp hdeleted with hexpired | hswept
    · exact isLog_iff.mp (mem_expired_iff.mp hexpired).2.1
    · exact isLog_iff.mp (mem_queued_iff.mp (mem_queued_of_mem_swept hswept)).2.1
  expired i hi hlog hold := by
    refine ⟨mem_deleted_iff.mpr (.inl (mem_expired_iff.mpr ⟨hi, isLog_iff.mpr hlog, hold⟩)), ?_⟩
    intro hleft
    rcases mem_left_iff.mp hleft with ⟨-, hother⟩ | hspared
    · exact hother hlog
    · exact Int.not_le.mpr hold (mem_queued_iff.mp (mem_queued_of_mem_spared hspared)).2.2
  oldest d hd hrecent i hi hlog := by
    have hspared : i ∈ spared cutoff limit items :=
      (mem_left_iff.mp hi).resolve_left fun hother => hother.2 hlog
    have hsorted := pairwise_queued cutoff items
    rw [← swept_append_spared cutoff limit, List.pairwise_append] at hsorted
    exact hsorted.2.2 d (mem_swept_of_mem_deleted hd hrecent) i hspared
  fits := by
    rw [filter_left]
    exact total_sweep_le limit (queued cutoff items)
  needed := by
    rintro ⟨d, hd, hrecent⟩
    have hne : swept cutoff limit items ≠ [] :=
      List.ne_nil_of_mem (mem_swept_of_mem_deleted hd hrecent)
    have hlast := List.getLast?_eq_some_getLast hne
    refine ⟨(swept cutoff limit items).getLast hne, ?_, ?_⟩
    · rw [prune_eq, List.getLast?_append, hlast, Option.some_or]
    · rw [filter_left]
      exact lt_total_sweep_add hlast

private theorem deleted_eq_nil (hrecent : ∀ i ∈ items, i.IsLogFile → cutoff ≤ i.modified)
    (hfits : total (items.filter Item.isLog) ≤ limit) :
    (prune cutoff limit items).deleted = [] := by
  have hexpired : expired cutoff items = [] :=
    List.eq_nil_iff_forall_not_mem.mpr fun i hi => by
      obtain ⟨hmem, hlog, hold⟩ := mem_expired_iff.mp hi
      exact Int.not_le.mpr hold (hrecent i hmem (isLog_iff.mp hlog))
  have hkept : (items.filter Item.isLog).filter (fun i => cutoff ≤ i.modified) =
      items.filter Item.isLog :=
    List.filter_eq_self.mpr fun i hi => by
      obtain ⟨hmem, hlog⟩ := List.mem_filter.mp hi
      exact decide_eq_true (hrecent i hmem (isLog_iff.mp hlog))
  have hqueued : (queued cutoff items).Perm (items.filter Item.isLog) := by
    unfold queued
    rw [hkept]
    exact List.mergeSort_perm _ _
  have hswept : swept cutoff limit items = [] := by
    unfold swept
    rw [sweep_of_le ((total_perm hqueued).symm ▸ hfits)]
  rw [prune_eq, hexpired, hswept]
  rfl

/-- Pruning deletes what it owes and no more: the second time it deletes nothing. -/
theorem prune_exact (cutoff : Instant) (limit : Nat) (items : List Item) :
    Pruned cutoff limit items (prune cutoff limit items) ∧
      (prune cutoff limit (prune cutoff limit items).left).deleted = [] := by
  have hpruned := pruned_prune cutoff limit items
  refine ⟨hpruned, deleted_eq_nil (fun i hi hlog => ?_) hpruned.fits⟩
  rcases mem_left_iff.mp hi with ⟨-, hother⟩ | hspared
  · exact absurd hlog hother
  · exact (mem_queued_iff.mp (mem_queued_of_mem_spared hspared)).2.2

end Retention

end Hotspot.Log
