import Mathlib.Data.List.Find
import Purse.Proofs.AppendOnly

/-!
# What belongs to a user

The part of a store that belongs to one user: the user's wallet, the entries to it, and the user's
payments. All users share the three tables, and each row belongs to one of them. So a change to the rows
of one user is the same change to the part of that user, and no change to the part of any other. What the
store shows to a user is read from the part of that user alone.
-/
namespace Purse

namespace Store

/-- The part of a user. -/
def only (s : Store) (user : UserId) : Store := { s with
  wallets := s.wallets.filter (·.userId = user)
  entries := s.entries.filter fun e => s.wallets.any fun w => w.userId = user && w.id = e.walletId
  payments := s.payments.filter (·.userId = user) }

/-- What a store shows to a user where no call fails: the wallet, and the pages of the history and of the
list of payments, newest first. -/
structure Shows (s : Store) (user : UserId) (wallet : Option Wallet) (entries : List Entry)
    (payments : List Payment) : Prop where
  wallet : World.findWallet user ⟨s, []⟩ = .ok wallet ⟨s, []⟩
  history : s.HasHistory user entries
  payments : ∀ page, Settlement.list user page ⟨s, []⟩ = .ok (page.slice payments) ⟨s, []⟩

end Store

/-- What an operation names: a user, a payment, or the reference of one. -/
inductive Subject where
  | user (user : UserId)
  | payment (id : PaymentId)
  | reference (externalId : String)
  deriving DecidableEq, Repr

def Operation.subject : Operation → Subject
  | .wallet user | .balance user | .history user _ | .deposit user _ _ | .withdraw user _ _
  | .chargeBooking user _ _ | .refundBooking user _ _ _ | .requestPayment user _ _ _
  | .payments user _ => .user user
  | .payFromWallet id | .checkout id | .refundPayment id | .payment id => .payment id
  | .applyVerdict verdict => .reference verdict.externalId

/-- Whether what is named is a user, or a payment of that user in the store, or its reference. -/
def Subject.concerns (s : Store) (user : UserId) : Subject → Bool
  | .user other => other = user
  | .payment id => s.payments.any fun row => row.id = id && row.userId = user
  | .reference externalId => s.payments.any fun row => row.externalId = some externalId && row.userId = user

/-- Whether what is named can only be a user's: it is the user, or every payment that it names is. -/
def Subject.BelongsTo (b : Books) (user : UserId) : Subject → Prop
  | .user other => other = user
  | .payment id => ∀ p ∈ b.payments, p.id = id → p.userId = user
  | .reference externalId => ∀ p ∈ b.payments, p.externalId = some externalId → p.userId = user

namespace Books

def only (b : Books) (user : UserId) : Books where
  wallets := b.wallets.filter (·.userId = user)
  entries := b.entries.filter fun e => b.wallets.any fun w => w.userId = user && w.id = e.walletId
  payments := b.payments.filter (·.userId = user)

variable {b : Books} {precision : Precision} {user : UserId} {w : Wallet} {e : Entry} {p q : Payment}

theorem only_store : (b.only user).store precision = (b.store precision).only user := by
  simp only [only, store, Store.only, List.filter_map, List.any_map]
  rfl

theorem mem_wallets_only : w ∈ (b.only user).wallets ↔ w ∈ b.wallets ∧ w.userId = user := by
  simp [only]

theorem mem_entries_only : e ∈ (b.only user).entries ↔ e ∈ b.entries ∧ b.Owns user e.walletId := by
  simp [only, Owns]

theorem mem_payments_only : p ∈ (b.only user).payments ↔ p ∈ b.payments ∧ p.userId = user := by
  simp [only]

/-- The constraints of the tables hold of each part. -/
theorem Sound.only (hb : b.Sound) (user : UserId) : (b.only user).Sound where
  walletIds := hb.walletIds.sublist (List.filter_sublist.map _)
  walletUsers := hb.walletUsers.sublist (List.filter_sublist.map _)
  balances w hw := hb.balances w (mem_wallets_only.1 hw).1
  entryIds := hb.entryIds.sublist (List.filter_sublist.map _)
  entryWallets e he := by
    obtain ⟨-, w, hw, huser, hid⟩ := mem_entries_only.1 he
    exact ⟨w, mem_wallets_only.2 ⟨hw, huser⟩, hid⟩
  paymentIds := hb.paymentIds.sublist (List.filter_sublist.map _)
  references p hp q hq := hb.references p (mem_payments_only.1 hp).1 q (mem_payments_only.1 hq).1

/-! ## Changes to the rows of one user -/

theorem only_addWallet (huser : w.userId = user) (hid : ∀ e ∈ b.entries, e.walletId ≠ w.id) :
    (b.addWallet w).only user = (b.only user).addWallet w := by
  subst huser
  have hentries : (b.addWallet w).entries.filter
      (fun e => (b.addWallet w).wallets.any fun v => v.userId = w.userId && v.id = e.walletId) =
        b.entries.filter fun e => b.wallets.any fun v => v.userId = w.userId && v.id = e.walletId := by
    apply List.filter_congr
    intro e he
    simp [addWallet, (hid e he).symm]
  simp only [only, hentries]
  simp [addWallet]

theorem only_addWallet_of_ne (h : w.userId ≠ user) : (b.addWallet w).only user = b.only user := by
  simp [only, addWallet, h]

/-- A wallet that takes the place of one of the same user changes the part of that user alone. -/
theorem only_putWallet (h : ∀ v ∈ b.wallets, v.id = w.id → v.userId = w.userId) :
    (b.putWallet w).only user = (b.only user).putWallet w := by
  have hwallets : (Keyed.put (·.id) w b.wallets).filter (·.userId = user) =
      Keyed.put (·.id) w (b.wallets.filter (·.userId = user)) :=
    Keyed.filter_put fun v hv hid => by rw [h v hv hid]
  have hentries (e : Entry) :
      ((Keyed.put (·.id) w b.wallets).any fun v => v.userId = user && v.id = e.walletId) =
        b.wallets.any fun v => v.userId = user && v.id = e.walletId :=
    Keyed.any_put fun v hv hid => by rw [h v hv hid, hid]
  simp only [only, putWallet, hwallets, hentries]

theorem only_putWallet_of_ne (h : ∀ v ∈ b.wallets, v.id = w.id → v.userId = w.userId)
    (hne : w.userId ≠ user) : (b.putWallet w).only user = b.only user := by
  have hself : Keyed.put (·.id) w (b.only user).wallets = (b.only user).wallets := by
    apply Keyed.put_eq_self
    intro v hv hid
    obtain ⟨hv, huser⟩ := mem_wallets_only.1 hv
    exact hne ((h v hv hid).symm.trans huser)
  rw [only_putWallet h, putWallet, hself]

theorem only_addEntry (h : b.Owns user e.walletId) :
    (b.addEntry e).only user = (b.only user).addEntry e := by
  have howns : (b.wallets.any fun w => w.userId = user && w.id = e.walletId) = true := by
    simpa [Owns] using h
  simp only [only, addEntry, List.filter_cons, howns, if_true]

theorem only_addEntry_of_not (h : ¬ b.Owns user e.walletId) :
    (b.addEntry e).only user = b.only user := by
  have howns : (b.wallets.any fun w => w.userId = user && w.id = e.walletId) = false := by
    simpa [Owns] using h
  simp only [only, addEntry, List.filter_cons, howns, Bool.false_eq_true, if_false]

theorem only_addPayment (h : p.userId = user) :
    (b.addPayment p).only user = (b.only user).addPayment p := by
  simp [only, addPayment, h]

theorem only_addPayment_of_ne (h : p.userId ≠ user) : (b.addPayment p).only user = b.only user := by
  simp [only, addPayment, h]

/-- So does a payment that takes the place of one of the same user. -/
theorem only_putPayment (h : ∀ r ∈ b.payments, r.id = q.id → r.userId = q.userId) :
    (b.putPayment q).only user = (b.only user).putPayment q := by
  have hpayments : (Keyed.put (·.id) q b.payments).filter (·.userId = user) =
      Keyed.put (·.id) q (b.payments.filter (·.userId = user)) :=
    Keyed.filter_put fun r hr hid => by rw [h r hr hid]
  simp only [only, putPayment, hpayments]

theorem only_putPayment_of_ne (h : ∀ r ∈ b.payments, r.id = q.id → r.userId = q.userId)
    (hne : q.userId ≠ user) : (b.putPayment q).only user = b.only user := by
  have hself : Keyed.put (·.id) q (b.only user).payments = (b.only user).payments := by
    apply Keyed.put_eq_self
    intro r hr hid
    obtain ⟨hr, huser⟩ := mem_payments_only.1 hr
    exact hne ((h r hr hid).symm.trans huser)
  rw [only_putPayment h, putPayment, hself]

/-! ## What is read from a part -/

theorem find?_wallets_only :
    (b.only user).wallets.find? (·.userId = user) = b.wallets.find? (·.userId = user) := by
  simp [only, List.find?_filter]

/-- Payments that can only be the user's are found in the part if they are found at all. -/
theorem find?_payments_only {P : Payment → Bool} (h : ∀ p ∈ b.payments, P p → p.userId = user) :
    (b.only user).payments.find? P = b.payments.find? P := by
  rw [only, List.find?_filter]
  refine List.find?_congr fun p hp => ?_
  cases hP : P p with
  | false => simp
  | true => simp [h p hp hP]

/-- The entries of a wallet are all in the part of its user. -/
theorem entries_only (hw : w ∈ b.wallets) :
    (b.only w.userId).entries.filter (·.walletId = w.id) = b.entries.filter (·.walletId = w.id) := by
  rw [only, List.filter_filter]
  apply List.filter_congr
  intro e _
  by_cases he : e.walletId = w.id
  · have howns : (b.wallets.any fun v => v.userId = w.userId && v.id = e.walletId) = true := by
      simpa using ⟨w, hw, rfl, he.symm⟩
    rw [howns, Bool.and_true]
  · simp only [he, decide_false, Bool.false_and]

theorem payments_only :
    (b.only user).payments.filter (·.userId = user) = b.payments.filter (·.userId = user) := by
  simp [only, List.filter_filter]

theorem history_only : (b.only user).history user = b.history user := by
  unfold history
  rw [find?_wallets_only]
  cases hfind : b.wallets.find? (·.userId = user) with
  | none => rfl
  | some w =>
      obtain rfl : w.userId = user := by simpa using List.find?_some hfind
      exact entries_only (List.mem_of_find?_eq_some hfind)

theorem Sound.shows (hb : b.Sound) (user : UserId) :
    (b.store precision).Shows user (b.wallets.find? (·.userId = user)) (b.history user)
      (b.payments.filter (·.userId = user)) where
  wallet := World.look_eq_ok (hb.findWallet user)
  history := hb.hasHistory
  payments page := Service.look_of_ok (listPayments_store user page)

/-- A user is shown the same whether or not there are other users. -/
theorem Sound.shows_only (hb : b.Sound) (user : UserId) :
    ((b.only user).store precision).Shows user (b.wallets.find? (·.userId = user)) (b.history user)
      (b.payments.filter (·.userId = user)) := by
  have hshows : ((b.only user).store precision).Shows user _ _ _ := (hb.only user).shows user
  rwa [find?_wallets_only, history_only, payments_only] at hshows

end Books
end Purse
