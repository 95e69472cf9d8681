import Mathlib.Data.List.Forall2
import Purse.Proofs.LifeCycle
import Purse.Proofs.NewPayment

/-!
# Reading a list in pages

A user's entries and payments are shown in pages, newest first. Whatever limit and offset are asked for,
the answer is the window of the full list that they name, so that one page after the other, up to the
first short one, is the full list. New rows come in front, and a payment that changes stays where it is.
So when `k` rows have come in between two reads, the next page is found at its old offset plus `k`.

The full list is the one of the stored rows of that user, in the order of the table. Everything about pages
follows from `Page.slice`, and everything about growth from `Grows`, which composes along a run.
-/
namespace Purse
open Service

/-- The second list is the first one with `k` elements in front of it, and each element of the first has
become one that it is related to, in its place. -/
structure Grows {α : Type} (R : α → α → Prop) (k : Nat) (old new : List α) : Prop where
  length : new.length = k + old.length
  kept : List.Forall₂ R old (new.drop k)

namespace Store

/-- The rows of a user's entries, newest first. -/
def entriesOf (s : Store) (user : UserId) : List EntryRow :=
  match s.walletOf? user with
  | none => []
  | some wallet => s.entries.filter (·.walletId = wallet.id)

/-- The rows of a user's payments, newest first. -/
def paymentsOf (s : Store) (user : UserId) : List PaymentRow := s.payments.filter (·.userId = user)

section Pages
variable {α : Type}

/-- Reading on from an offset, page by page, up to the first page that is not full, shows these elements. -/
inductive Browses (s : Store) (read : Page → Service (List α)) (size : Int) : Int → List α → Prop
  | last {offset : Int} {page : List α} : read (.of size offset) ⟨s, []⟩ = .ok page ⟨s, []⟩ →
      page.length < size → Browses s read size offset page
  | next {offset : Int} {page rest : List α} : read (.of size offset) ⟨s, []⟩ = .ok page ⟨s, []⟩ →
      size ≤ page.length → Browses s read size (offset + size) rest →
      Browses s read size offset (page ++ rest)

/-- Where no call fails, a service shows exactly this list in pages. -/
structure Pages (s : Store) (read : Page → Service (List α)) (full : List α) : Prop where
  window : ∀ limit offset : Int, ∃ page, read (.of limit offset) ⟨s, []⟩ = .ok page ⟨s, []⟩ ∧
    ∀ i : Nat, page[i]? =
      if (i : Int) < max 1 (min limit 100) then full[(max offset 0).toNat + i]? else none
  beyond : ∀ limit offset : Int, full.length ≤ offset →
    read (.of limit offset) ⟨s, []⟩ = .ok [] ⟨s, []⟩
  complete : ∀ size : Int, 1 ≤ size → size ≤ 100 → ∀ shown, s.Browses read size 0 shown ↔ shown = full

/-- A page of the second store is the page of the first one that stood `k` elements further in front. -/
def Resumes (s t : Store) (read : Page → Service (List α)) (R : α → α → Prop) (k : Nat) : Prop :=
  ∀ limit offset : Int, 0 ≤ offset → ∃ page page', read (.of limit offset) ⟨s, []⟩ = .ok page ⟨s, []⟩ ∧
    read (.of limit (offset + k)) ⟨t, []⟩ = .ok page' ⟨t, []⟩ ∧ List.Forall₂ R page page'

end Pages

/-- What a user is shown: the entries and the payments that are stored, each once and newest first. -/
structure Lists (s : Store) (user : UserId) (es : List Entry) (ps : List Payment) : Prop where
  entries : es.map .ofEntry = s.entriesOf user
  payments : ps.map .ofPayment = s.paymentsOf user
  entryIds : (es.map (·.id)).Nodup
  paymentIds : (ps.map (·.id)).Nodup
  history : s.Pages (Ledger.history user) es
  list : s.Pages (Settlement.list user) ps

end Store

/-! ## Lists that grow in front -/

theorem forall₂_trans {α : Type} {R : α → α → Prop} {xs ys zs : List α}
    (htrans : ∀ {x y z}, R x y → R y z → R x z) (h : List.Forall₂ R xs ys) (h' : List.Forall₂ R ys zs) :
    List.Forall₂ R xs zs := by
  induction h generalizing zs with
  | nil => exact h'
  | cons hxy _ ih =>
      cases h' with
      | cons hyz hrest => exact .cons (htrans hxy hyz) (ih hrest)

namespace Grows

variable {α : Type} {R : α → α → Prop} {j k : Nat} {xs ys zs : List α}

theorem refl (h : ∀ x, R x x) (xs : List α) : Grows R 0 xs xs :=
  ⟨(Nat.zero_add _).symm, List.forall₂_same.2 fun x _ => h x⟩

theorem cons (h : ∀ x, R x x) (x : α) (xs : List α) : Grows R 1 xs (x :: xs) :=
  ⟨Nat.add_comm _ _, List.forall₂_same.2 fun x _ => h x⟩

theorem of_suffix (h : xs <:+ ys) : ∃ k, Grows (· = ·) k xs ys := by
  obtain ⟨added, rfl⟩ := h
  refine ⟨added.length, List.length_append, ?_⟩
  rw [List.drop_left]
  exact List.forall₂_eq_eq_eq ▸ rfl

theorem trans (htrans : ∀ {x y z}, R x y → R y z → R x z) (h : Grows R j xs ys) (h' : Grows R k ys zs) :
    Grows R (j + k) xs zs where
  length := by
    rw [h'.length, h.length]
    omega
  kept := by
    have hmoved := List.forall₂_drop j h'.kept
    rw [List.drop_drop, Nat.add_comm] at hmoved
    exact forall₂_trans htrans h.kept hmoved

/-- A page of the old list is found again `k` places further on. -/
theorem slice (h : Grows R k xs ys) (limit : Int) {offset : Int} (hoffset : 0 ≤ offset) :
    List.Forall₂ R ((Page.of limit offset).slice xs) ((Page.of limit (offset + k)).slice ys) := by
  have hnat : (offset + k).toNat = k + offset.toNat := by omega
  simp only [Page.slice, Page.of, hnat, ← List.drop_drop]
  exact List.forall₂_take _ (List.forall₂_drop _ h.kept)

end Grows

/-- Replacing an element by one that it leads to leaves all others in their places. -/
theorem Keyed.grows_put {α κ : Type} [DecidableEq κ] {R : α → α → Prop} {key : α → κ} {a : α} {as : List α}
    (hrefl : ∀ x, R x x) (h : ∀ x ∈ as, key x = key a → R x a) : Grows R 0 as (put key a as) := by
  refine ⟨by simp [put, Store.updateWhere], ?_⟩
  rw [List.drop_zero, put, Store.updateWhere, List.forall₂_map_right_iff, List.forall₂_same]
  intro x hx
  simp only [decide_eq_true_eq]
  split_ifs with hkey
  · exact h x hx hkey
  · exact hrefl x

/-! ## Pages of a list -/

namespace Store

variable {α : Type} {s t : Store} {read : Page → Service (List α)} {full : List α}

theorem getElem?_slice (limit offset : Int) (xs : List α) (i : Nat) :
    ((Page.of limit offset).slice xs)[i]? =
      if (i : Int) < max 1 (min limit 100) then xs[(max offset 0).toNat + i]? else none := by
  have hoffset : (max offset 0).toNat = offset.toNat := by omega
  have hlimit : i < (max 1 (min limit 100)).toNat ↔ (i : Int) < max 1 (min limit 100) := by omega
  rw [hoffset, Page.slice, List.getElem?_take, List.getElem?_drop]
  simp only [Page.of, hlimit]

theorem slice_beyond (limit : Int) {offset : Int} {xs : List α} (h : xs.length ≤ offset) :
    (Page.of limit offset).slice xs = [] := by
  rw [Page.slice, List.drop_eq_nil_of_le (by simp only [Page.of]; omega), List.take_nil]

theorem slice_of_size {size : Int} (hpos : 1 ≤ size) (hle : size ≤ 100) (offset : Nat) (xs : List α) :
    (Page.of size offset).slice xs = (xs.drop offset).take size.toNat := by
  have hsize : (max 1 (min size 100)).toNat = size.toNat := by omega
  simp only [Page.slice, Page.of, hsize, Int.toNat_natCast]

section Browsing
variable {size : Int} (hread : ∀ page, read page ⟨s, []⟩ = .ok (page.slice full) ⟨s, []⟩)
  (hpos : 1 ≤ size) (hle : size ≤ 100)
include hread hpos hle

/-- By induction on what is left of the list: a full page is followed by the rest of it. -/
theorem browses_drop (offset : Nat) : s.Browses read size offset (full.drop offset) := by
  have hslice := slice_of_size hpos hle offset full
  by_cases hshort : full.length - offset < size.toNat
  · refine .last ?_ ?_
    · rw [hread, hslice, List.take_of_length_le (by rw [List.length_drop]; omega)]
    · rw [List.length_drop]
      omega
  · have hrest := browses_drop (offset + size.toNat)
    rw [← List.take_append_drop size.toNat (full.drop offset), List.drop_drop]
    refine .next (by rw [hread, hslice]) ?_ ?_
    · rw [List.length_take, List.length_drop]
      omega
    · have hcast : ((offset + size.toNat : Nat) : Int) = offset + size := by omega
      rwa [hcast] at hrest
termination_by full.length - offset

theorem Browses.eq_drop {offset : Int} {shown : List α} (h : s.Browses read size offset shown)
    (hoffset : 0 ≤ offset) : shown = full.drop offset.toNat := by
  induction h with
  | @last offset page hpage hshort =>
      obtain ⟨n, rfl⟩ := Int.eq_ofNat_of_zero_le hoffset
      rw [hread, slice_of_size hpos hle] at hpage
      obtain rfl : _ = page := by injection hpage
      rw [List.length_take] at hshort
      rw [Int.toNat_natCast, List.take_of_length_le (by omega)]
  | @next offset page rest hpage hfull _ ih =>
      obtain ⟨n, rfl⟩ := Int.eq_ofNat_of_zero_le hoffset
      rw [hread, slice_of_size hpos hle] at hpage
      obtain rfl : _ = page := by injection hpage
      have hnext : ((n : Int) + size).toNat = n + size.toNat := by omega
      rw [ih (by omega), hnext, ← List.drop_drop, Int.toNat_natCast, List.take_append_drop]

end Browsing

/-- What is answered with the slices of a list is shown in pages. -/
theorem pages_of_slices (hread : ∀ page, read page ⟨s, []⟩ = .ok (page.slice full) ⟨s, []⟩) :
    s.Pages read full where
  window limit offset := ⟨_, hread _, getElem?_slice limit offset full⟩
  beyond limit offset h := by rw [hread, slice_beyond limit h]
  complete size hpos hle shown := by
    constructor
    · intro h
      exact h.eq_drop hread hpos hle (Int.le_refl 0)
    · rintro rfl
      exact browses_drop hread hpos hle 0

theorem resumes_of_grows {R : α → α → Prop} {k : Nat} {old new : List α}
    (hs : ∀ page, read page ⟨s, []⟩ = .ok (page.slice old) ⟨s, []⟩)
    (ht : ∀ page, read page ⟨t, []⟩ = .ok (page.slice new) ⟨t, []⟩) (h : Grows R k old new) :
    s.Resumes t read R k :=
  fun limit _ hoffset => ⟨_, _, hs _, ht _, h.slice limit hoffset⟩

end Store

/-! ## What a run does to the lists -/

namespace Books

variable {b b' : Books} {p q : Payment} {user : UserId} {precision : Precision}

/-- A user's payments, newest first. -/
def paymentsOf (b : Books) (user : UserId) : List Payment := b.payments.filter (·.userId = user)

theorem Sound.grows_putPayment (hb : b.Sound) (hp : p ∈ b.payments) (h : p.Progress q) (user : UserId) :
    Grows Payment.Leads 0 (b.paymentsOf user) ((b.putPayment q).paymentsOf user) := by
  have hid := h.sameTerms.id
  have hsame (r : Payment) (hr : r ∈ b.payments) (heq : r.id = q.id) : r = p :=
    hb.eq_of_id hr hp (heq.trans hid)
  have hfilter : (b.putPayment q).paymentsOf user = Keyed.put (·.id) q (b.paymentsOf user) :=
    Keyed.filter_put fun r hr heq => by rw [hsame r hr heq, h.sameTerms.userId]
  rw [hfilter]
  refine Keyed.grows_put (fun _ => .refl) fun r hr heq => ?_
  rw [hsame r (List.mem_of_mem_filter hr) heq]
  exact .single h

theorem Settled.grows (h : b.Settled p q b') (hb : b.Sound) (user : UserId) :
    Grows Payment.Leads 0 (b.paymentsOf user) (b'.paymentsOf user) := by
  have hprogress := h.progress
  obtain ⟨hp, -, hposted⟩ := h
  have hpayments := hposted.payments_eq
  have hgrows := (hposted.sound hb).grows_putPayment (hpayments ▸ hp) hprogress user
  rwa [paymentsOf, hpayments] at hgrows

theorem Amended.grows (h : b.Amended p q b') (hb : b.Sound) (user : UserId) :
    Grows Payment.Leads 0 (b.paymentsOf user) (b'.paymentsOf user) := by
  have hprogress := h.progress
  obtain ⟨hp, -, -⟩ := h
  exact hb.grows_putPayment hp hprogress user

/-- A new payment comes first in the list of its payer, and in no other. -/
theorem grows_addPayment (b : Books) (p : Payment) (user : UserId) :
    Grows Payment.Leads (if p.userId = user then 1 else 0) (b.paymentsOf user)
      ((b.addPayment p).paymentsOf user) := by
  simp only [paymentsOf, addPayment]
  by_cases huser : p.userId = user
  · rw [List.filter_cons_of_pos (by simpa using huser), if_pos huser]
    exact .cons (fun _ => Relation.ReflTransGen.refl) _ _
  · rw [List.filter_cons_of_neg (by simpa using huser), if_neg huser]
    exact .refl (fun _ => Relation.ReflTransGen.refl) _

end Books

/-- Requests a payment of this user. -/
def Operation.RequestsFor (user : UserId) (operation : Operation) : Prop :=
  ∃ amount method booking, operation = .requestPayment user amount method booking

/-- An operation changes the payments of a user in their places, and adds to them only if it requests one
of that user. -/
theorem Operation.Does.grows {b b' : Books} {operation : Operation} {answered : Bool}
    (h : operation.Does b answered b') (hb : b.Lawful) (user : UserId) :
    ∃ k, Grows Payment.Leads k (b.paymentsOf user) (b'.paymentsOf user) ∧
      (k ≠ 0 → operation.RequestsFor user) := by
  have unchanged {c : Books} (hpayments : c.payments = b.payments) :
      ∃ k, Grows Payment.Leads k (b.paymentsOf user) (c.paymentsOf user) ∧
        (k ≠ 0 → operation.RequestsFor user) := by
    refine ⟨0, ?_, fun hk => absurd rfl hk⟩
    rw [Books.paymentsOf, Books.paymentsOf, hpayments]
    exact .refl (fun _ => .refl) _
  have asked {p : Payment} (hoperation : operation = requesting p)
      (hk : (if p.userId = user then 1 else 0) ≠ 0) : operation.RequestsFor user := by
    obtain rfl := of_not_not fun huser => hk (if_neg huser)
    exact ⟨_, _, _, hoperation⟩
  cases h with
  | nothing _ => exact unchanged rfl
  | opened _ _ hopened => exact unchanged hopened.payments_eq
  | posted _ _ _ hposted => exact unchanged hposted.payments_eq
  | @requested p hoperation _ _ => exact ⟨_, b.grows_addPayment p user, asked hoperation⟩
  | @charged p q _ hoperation _ _ hrequests hsettled =>
      have hsound := (hrequests.effect.lawful hb).toSound
      exact ⟨_, (b.grows_addPayment p user).trans .trans (hsettled.grows hsound user), asked hoperation⟩
  | @declined p q _ hoperation _ hrequests _ hamended =>
      have hsound := (hrequests.effect.lawful hb).toSound
      exact ⟨_, (b.grows_addPayment p user).trans .trans (hamended.grows hsound user), asked hoperation⟩
  | settled _ _ hsettled => exact ⟨0, hsettled.grows hb.toSound user, fun hk => absurd rfl hk⟩
  | amended _ _ hamended => exact ⟨0, hamended.grows hb.toSound user, fun hk => absurd rfl hk⟩

namespace Books

variable {b b' : Books} {user : UserId} {precision : Precision}

/-- By induction on the run, one operation after the other. -/
theorem Lawful.run_grows (hb : b.Lawful) (precision : Precision) (steps : List Step) (user : UserId) :
    ∃ (b' : Books) (j k : Nat), (b.store precision).after steps = b'.store precision ∧ b'.Lawful ∧
      Grows (· = ·) j (b.history user) (b'.history user) ∧
      Grows Payment.Leads k (b.paymentsOf user) (b'.paymentsOf user) ∧
      (k ≠ 0 → ∃ step ∈ steps, step.operation.RequestsFor user) := by
  induction steps generalizing b with
  | nil => exact ⟨b, 0, 0, rfl, hb, .refl (fun _ => rfl) _, .refl (fun _ => .refl) _, fun hk => absurd rfl hk⟩
  | cons step steps ih =>
      obtain ⟨c, hc, hdoes⟩ := step.does precision hb
      have hlawful := hdoes.reaches.lawful hb
      obtain ⟨i, hhistory⟩ := Grows.of_suffix ((hdoes.extends hb).history_suffix hlawful.toSound)
      obtain ⟨m, hpayments, hasked⟩ := hdoes.grows hb user
      obtain ⟨b', j, k, hb', hlawful', hhistory', hpayments', hasked'⟩ := ih hlawful
      refine ⟨b', _, _, ?_, hlawful', hhistory.trans .trans hhistory', hpayments.trans .trans hpayments',
        fun hk => ?_⟩
      · rw [Store.after, hc, hb']
      · by_cases hm : m = 0
        · obtain ⟨later, hlater, hrequests⟩ := hasked' (by omega)
          exact ⟨later, List.mem_cons_of_mem step hlater, hrequests⟩
        · exact ⟨step, List.mem_cons_self, hasked hm⟩

theorem entriesOf_store (b : Books) (precision : Precision) (user : UserId) :
    (b.store precision).entriesOf user = (b.history user).map .ofEntry := by
  rw [Store.entriesOf, walletOf?_store, history]
  cases b.wallets.find? (·.userId = user) with
  | none => rfl
  | some w =>
      simp only [Option.map_some, store, List.filter_map]
      rfl

theorem paymentsOf_store (b : Books) (precision : Precision) (user : UserId) :
    (b.store precision).paymentsOf user = (b.paymentsOf user).map .ofPayment := by
  simp only [Store.paymentsOf, store, List.filter_map]
  rfl

theorem Sound.nodup_history (hb : b.Sound) (user : UserId) : ((b.history user).map (·.id)).Nodup := by
  rw [history]
  cases b.wallets.find? (·.userId = user) with
  | none => exact List.nodup_nil
  | some w => exact hb.entryIds.sublist (List.filter_sublist.map _)

theorem Sound.lists (hb : b.Sound) (precision : Precision) (user : UserId) :
    (b.store precision).Lists user (b.history user) (b.paymentsOf user) where
  entries := (b.entriesOf_store precision user).symm
  payments := (b.paymentsOf_store precision user).symm
  entryIds := hb.nodup_history user
  paymentIds := hb.paymentIds.sublist (List.filter_sublist.map _)
  history := Store.pages_of_slices hb.hasHistory
  list := Store.pages_of_slices (hasPayments user)

end Books

/-- After every run a user's entries and payments are shown in pages, exactly and completely. Any further
steps bring some number of entries and payments in front of those that are there, and reading goes on where
it was with the old offset plus that number. The entries stay as they are; a payment stays in its place
whatever happens to it, and no payment is added but by a request of that user. -/
theorem Store.pages_exact_and_complete (precision : Precision) (steps : List Step) (user : UserId) :
    ∃ es ps, ((empty precision).after steps).Lists user es ps ∧ ∀ later : List Step,
      ∃ es' ps' j k, (((empty precision).after steps).after later).Lists user es' ps' ∧
        Grows (· = ·) j es es' ∧ Grows Payment.Leads k ps ps' ∧
        ((empty precision).after steps).Resumes (((empty precision).after steps).after later)
          (Ledger.history user) (· = ·) j ∧
        ((empty precision).after steps).Resumes (((empty precision).after steps).after later)
          (Settlement.list user) Payment.Leads k ∧
        ((∀ step ∈ later, ¬ step.operation.RequestsFor user) → k = 0) := by
  obtain ⟨b, hb, hlawful⟩ := Books.run_lawful precision steps
  rw [hb]
  refine ⟨_, _, hlawful.lists precision user, fun later => ?_⟩
  obtain ⟨b', j, k, hb', hlawful', hentries, hpayments, hasked⟩ := hlawful.run_grows precision later user
  rw [hb']
  refine ⟨_, _, j, k, hlawful'.lists precision user, hentries, hpayments, ?_, ?_, fun hnone => ?_⟩
  · exact resumes_of_grows hlawful.hasHistory hlawful'.hasHistory hentries
  · exact resumes_of_grows (Books.hasPayments user) (Books.hasPayments user) hpayments
  · by_contra hk
    obtain ⟨step, hstep, hrequests⟩ := hasked hk
    exact hnone step hstep hrequests

end Purse
