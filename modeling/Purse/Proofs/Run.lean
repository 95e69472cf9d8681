import Purse.Proofs.Schedule
import Purse.Proofs.Services

/-!
# Runs

A step performs one operation with what it draws from outside, with the gateways of the moment, and
under faults of its own; a run is a list of steps, made one after the other from an empty store. The
faults of a step are arbitrary, so what is left of them at its end needs no name: the next step may bring
the same ones. Lists of faults reach every choice of calls to fail, see `Fault.consult_ofSchedule`.

Every step leaves the store of lawful books, and leads there by changes of the five sorts. So a property
of the books that every change keeps holds after every run.
-/
namespace Purse
open Service

variable {b : Books} {precision : Precision} {draws : Draws} {gateways : Gateways} {w u : World}

/-! ## What an operation can do -/

namespace Ledger

theorem readsOnly_balance (user : UserId) : ReadsOnly (balance user) := by
  refine (readsOnly_look .findWallet _).bind fun found => ?_
  cases found with
  | none => exact readsOnly_pure 0
  | some wallet => exact readsOnly_pure wallet.balance

theorem readsOnly_history (user : UserId) (page : Page) : ReadsOnly (history user page) := by
  refine (readsOnly_look .findWallet _).bind fun found => ?_
  cases found with
  | none => exact readsOnly_pure []
  | some wallet => exact readsOnly_look .listEntries _

section Posting
variable {user : UserId} {amount : Int} {posting : Amount → Posting}

/-- The four services that post on their own account have this form. -/
theorem of_checked_ok {e : Entry} (hb : b.Sound) (hw : w.store = b.store precision)
    (h : (do let a ← Amount.ofInt amount; postAlone draws user (posting a) : Service Entry) w =
      .ok e u) :
    ∃ a b', Amount.ofInt amount = .ok a ∧ u.store = b'.store precision ∧
      b.Posted user (posting a) { e with createdAt := precision.cut e.createdAt } b' := by
  obtain ⟨a, v, hamount, h⟩ := bind_eq_ok.1 h
  obtain ⟨ha, rfl⟩ := liftLedger_eq_ok.1 hamount
  obtain ⟨b', hb', hposted⟩ := of_postAlone hb hw h
  exact ⟨a, b', ha, hb', hposted⟩

theorem store_of_checked_error {error : ServiceError}
    (h : (do let a ← Amount.ofInt amount; postAlone draws user (posting a) : Service Entry) w =
      .error error u) : u.store = w.store := by
  rcases bind_eq_error.1 h with hamount | ⟨a, v, hamount, h⟩
  · rw [(liftLedger_eq_error.1 hamount).2]
  · obtain ⟨-, rfl⟩ := liftLedger_eq_ok.1 hamount
    exact store_of_unitOfWork_error h

end Posting
end Ledger

namespace Operation

/-- An operation that fails leaves the store as it was, unless it requests or settles a wallet payment:
then the payment may have been stored, or its refusal recorded. -/
theorem of_perform_error {operation : Operation} {error : ServiceError} (hb : b.Lawful)
    (hw : w.store = b.store precision)
    (h : operation.perform gateways draws w = .error error u) :
    u.store = w.store ∨
      (∃ user amount booking a p, operation = .requestPayment user amount .wallet booking ∧
        Amount.ofInt amount = .ok a ∧
        p = .requested draws.paymentId user a .wallet booking (precision.cut draws.createdAt) ∧
        (∀ q ∈ b.payments, q.id ≠ draws.paymentId) ∧
        (u.store = (b.addPayment p).store precision ∨
          ∃ q b', q.status = .failed ∧ u.store = b'.store precision ∧
            (b.addPayment p).Amended p q b')) ∨
      ∃ p b', operation = .payFromWallet p.id ∧ p.status = .pending ∧
        u.store = b'.store precision ∧
        b.Amended p { p with
          status := .failed
          errorMessage := some error.message
          updatedAt := precision.cut draws.movedAt } b' := by
  cases operation with
  | wallet user =>
      obtain ⟨cause, hopen, -⟩ := liftStore_eq_error.1 (map_eq_error.1 h)
      exact .inl (World.store_of_attempt_error hopen)
  | balance user => exact .inl ((Ledger.readsOnly_balance user).of_error (map_eq_error.1 h))
  | history user page =>
      exact .inl ((Ledger.readsOnly_history user page).of_error (map_eq_error.1 h))
  | deposit user amount description =>
      exact .inl (Ledger.store_of_checked_error (map_eq_error.1 h))
  | withdraw user amount description =>
      exact .inl (Ledger.store_of_checked_error (map_eq_error.1 h))
  | chargeBooking user amount booking =>
      exact .inl (Ledger.store_of_checked_error (map_eq_error.1 h))
  | refundBooking user amount booking reason =>
      exact .inl (Ledger.store_of_checked_error (map_eq_error.1 h))
  | requestPayment user amount method booking =>
      rcases Settlement.of_request_error hb hw (map_eq_error.1 h) with hu | ⟨rfl, a, p, hrest⟩
      · exact .inl hu
      · exact .inr (.inl ⟨user, amount, booking, a, p, rfl, hrest⟩)
  | payFromWallet id =>
      rcases Settlement.of_payFromWallet_error hb hw (map_eq_error.1 h) with hu | ⟨p, b', rfl, hrest⟩
      · exact .inl hu
      · exact .inr (.inr ⟨p, b', rfl, hrest⟩)
  | checkout id => exact .inl (store_of_unitOfWork_error (map_eq_error.1 h))
  | applyVerdict verdict => exact .inl (store_of_unitOfWork_error (map_eq_error.1 h))
  | refundPayment id => exact .inl (store_of_unitOfWork_error (map_eq_error.1 h))
  | payment id => exact .inl ((Settlement.readsOnly_find id).of_error (map_eq_error.1 h))
  | payments user page =>
      exact .inl ((readsOnly_look .listPayments _).of_error (map_eq_error.1 h))

end Operation

/-- The books that come from others by any number of changes. -/
abbrev Books.Reaches : Books → Books → Prop := Relation.ReflTransGen Books.Effect

theorem Books.Reaches.lawful {b' : Books} (h : b.Reaches b') (hb : b.Lawful) : b'.Lawful := by
  induction h with
  | refl => exact hb
  | tail _ heffect ih => exact heffect.lawful ih

theorem Books.Reaches.leads {b' : Books} (h : b.Reaches b') (hb : b.Lawful) {p : Payment}
    (hp : p ∈ b.payments) : ∃ q ∈ b'.payments, p.Leads q := by
  induction h with
  | refl => exact ⟨p, hp, .refl⟩
  | tail hreach heffect ih =>
      obtain ⟨q, hq, hlead⟩ := ih
      obtain ⟨r, hr, hstep⟩ := heffect.step (Books.Reaches.lawful hreach hb) hq
      exact ⟨r, hr, hlead.trans hstep.to_reflTransGen⟩

/-- A new payment that can be stored: it is as a request makes it, and its identifier is free. -/
structure Books.Requests (b : Books) (p : Payment) : Prop where
  requested : p = .requested p.id p.userId p.amount p.method p.bookingId p.createdAt
  fresh : ∀ q ∈ b.payments, q.id ≠ p.id

theorem Books.Requests.effect {p : Payment} (h : b.Requests p) : b.Effect (b.addPayment p) := by
  have heffect := Books.Effect.requested p.id p.userId p.amount p.method p.bookingId p.createdAt h.fresh
  rwa [← h.requested] at heffect

namespace Operation

/-- The user to whose wallet an operation posts on no payment's account. -/
def postsFor? : Operation → Option UserId
  | .deposit user _ _ | .withdraw user _ _ | .chargeBooking user _ _ | .refundBooking user _ _ _ =>
    some user
  | _ => none

/-- Neither asks for a wallet nor posts to one on no payment's account. -/
def LeavesWallets (operation : Operation) : Prop :=
  operation.postsFor? = none ∧ ∀ user, operation ≠ .wallet user

/-- The operation that requests a payment. -/
def requesting (p : Payment) : Operation :=
  .requestPayment p.userId p.amount.value p.method p.bookingId

/-- What an operation has done to the books when it is over. What moves money or opens a wallet is done
only by one that answers. Only a request makes two changes, the second one to the payment that it has just
stored; a wallet payment is never left pending by a request that answers. Only a checkout gives a payment
something else than a failure. -/
inductive Does (b : Books) (operation : Operation) (answered : Bool) : Books → Prop
  | nothing : (answered → operation.LeavesWallets) → Does b operation answered b
  | opened {user : UserId} {w : Wallet} {b' : Books} : operation = .wallet user → answered →
      b.Opened user w b' → Does b operation answered b'
  | posted {user : UserId} {posting : Posting} {e : Entry} {b' : Books} :
      operation.postsFor? = some user → answered → posting.paymentId = none →
      b.Posted user posting e b' → Does b operation answered b'
  | requested {p : Payment} : operation = requesting p → (answered → p.method ≠ .wallet) →
      b.Requests p → Does b operation answered (b.addPayment p)
  | charged {p q : Payment} {b' : Books} : operation = requesting p → answered → p.method = .wallet →
      b.Requests p → (b.addPayment p).Settled p q b' → Does b operation answered b'
  | declined {p q : Payment} {b' : Books} : operation = requesting p → p.method = .wallet →
      b.Requests p → q.status = .failed → (b.addPayment p).Amended p q b' →
      Does b operation answered b'
  | settled {p q : Payment} {b' : Books} : operation.LeavesWallets → answered → b.Settled p q b' →
      Does b operation answered b'
  | amended {p q : Payment} {b' : Books} : operation.LeavesWallets →
      (q.status = .failed ∨ operation = .checkout p.id) → b.Amended p q b' → Does b operation answered b'

theorem Does.reaches {operation : Operation} {answered : Bool} {b' : Books}
    (h : operation.Does b answered b') : b.Reaches b' := by
  cases h with
  | nothing _ => exact .refl
  | opened _ _ hopened => exact .single (.opened hopened)
  | posted _ _ hnone hposted => exact .single (.posted hnone hposted)
  | requested _ _ hrequests => exact .single hrequests.effect
  | charged _ _ _ hrequests hsettled => exact .tail (.single hrequests.effect) (.settled hsettled)
  | declined _ _ hrequests _ hamended => exact .tail (.single hrequests.effect) (.amended hamended)
  | settled _ _ hsettled => exact .single (.settled hsettled)
  | amended _ _ hamended => exact .single (.amended hamended)

/-- What the four services that post on no payment's account have done when they answer. -/
theorem does_of_checked {operation : Operation} {user : UserId} {amount : Int}
    {posting : Amount → Posting} {e : Entry} (hb : b.Sound) (hw : w.store = b.store precision)
    (hoperation : operation.postsFor? = some user) (hnone : ∀ a, (posting a).paymentId = none)
    (h : (do let a ← Amount.ofInt amount; Ledger.postAlone draws user (posting a) : Service Entry) w =
      .ok e u) :
    ∃ b', u.store = b'.store precision ∧ operation.Does b true b' := by
  obtain ⟨a, b', -, hu, hposted⟩ := Ledger.of_checked_ok hb hw h
  exact ⟨b', hu, .posted hoperation rfl (hnone a) hposted⟩

theorem of_perform_ok {operation : Operation} {answer : Answer} (hb : b.Lawful)
    (hw : w.store = b.store precision)
    (h : operation.perform gateways draws w = .ok answer u) :
    ∃ b', u.store = b'.store precision ∧ operation.Does b true b' := by
  have unchanged (hu : u.store = w.store) (hleaves : operation.LeavesWallets) :
      ∃ b', u.store = b'.store precision ∧ operation.Does b true b' :=
    ⟨b, hu.trans hw, .nothing fun _ => hleaves⟩
  cases operation with
  | wallet user =>
      obtain ⟨wallet, h, -⟩ := map_eq_ok.1 h
      obtain ⟨b', hu, hopened⟩ := Ledger.of_opening hb.toSound hw h
      exact ⟨b', hu, .opened rfl rfl hopened⟩
  | balance user =>
      obtain ⟨sum, h, -⟩ := map_eq_ok.1 h
      exact unchanged ((Ledger.readsOnly_balance user).of_ok h) ⟨rfl, by simp⟩
  | history user page =>
      obtain ⟨entries, h, -⟩ := map_eq_ok.1 h
      exact unchanged ((Ledger.readsOnly_history user page).of_ok h) ⟨rfl, by simp⟩
  | deposit user amount description =>
      obtain ⟨e, h, -⟩ := map_eq_ok.1 h
      exact does_of_checked hb.toSound hw rfl (fun _ => rfl) h
  | withdraw user amount description =>
      obtain ⟨e, h, -⟩ := map_eq_ok.1 h
      exact does_of_checked hb.toSound hw rfl (fun _ => rfl) h
  | chargeBooking user amount booking =>
      obtain ⟨e, h, -⟩ := map_eq_ok.1 h
      exact does_of_checked hb.toSound hw rfl (fun _ => rfl) h
  | refundBooking user amount booking reason =>
      obtain ⟨e, h, -⟩ := map_eq_ok.1 h
      exact does_of_checked hb.toSound hw rfl (fun _ => rfl) h
  | requestPayment user amount method booking =>
      obtain ⟨p, h, -⟩ := map_eq_ok.1 h
      obtain ⟨a, p, ha, rfl, hfresh, hrest⟩ := Settlement.of_request_ok hb hw h
      obtain rfl := Amount.value_of_ofInt ha
      rcases hrest with ⟨hmethod, hu, -⟩ | ⟨rfl, b', hu, ⟨-, hsettled⟩ | ⟨hfailed, hamended⟩⟩
      · exact ⟨_, hu, .requested rfl (fun _ => hmethod) ⟨rfl, hfresh⟩⟩
      · exact ⟨b', hu, .charged rfl rfl rfl ⟨rfl, hfresh⟩ hsettled⟩
      · exact ⟨b', hu, .declined rfl rfl ⟨rfl, hfresh⟩ hfailed hamended⟩
  | payFromWallet id =>
      obtain ⟨q, h, -⟩ := map_eq_ok.1 h
      obtain ⟨p, -, -, -, ⟨-, -, hu⟩ | ⟨b', -, -, hu, hsettled⟩⟩ := Settlement.of_payFromWallet_ok hb hw h
      · exact unchanged hu ⟨rfl, by simp⟩
      · exact ⟨b', hu, .settled ⟨rfl, by simp⟩ rfl hsettled⟩
  | checkout id =>
      obtain ⟨found, h, -⟩ := map_eq_ok.1 h
      obtain ⟨p, -, rfl, -, -, ⟨-, hu⟩ | ⟨-, q, b', -, -, -, -, hu, hamended⟩⟩ :=
        Settlement.of_checkout hb hw h
      · exact unchanged hu ⟨rfl, by simp⟩
      · exact ⟨b', hu, .amended ⟨rfl, by simp⟩ (.inr rfl) hamended⟩
  | applyVerdict verdict =>
      obtain ⟨q, h, -⟩ := map_eq_ok.1 h
      obtain ⟨p, -, -, ⟨-, -, hu⟩ | ⟨q, b', -, htarget, -, hu, hstep⟩⟩ :=
        Settlement.of_applyVerdict hb hw h
      · exact unchanged hu ⟨rfl, by simp⟩
      · split_ifs at hstep with hsuccess
        · exact ⟨b', hu, .settled ⟨rfl, by simp⟩ rfl hstep⟩
        · refine ⟨b', hu, .amended ⟨rfl, by simp⟩ (.inl ?_) hstep⟩
          rw [htarget, Settlement.target, if_neg hsuccess]
  | refundPayment id =>
      obtain ⟨q, h, -⟩ := map_eq_ok.1 h
      obtain ⟨p, -, -, ⟨-, -, hu⟩ | ⟨b', -, -, hu, hsettled⟩⟩ := Settlement.of_refund hb hw h
      · exact unchanged hu ⟨rfl, by simp⟩
      · exact ⟨b', hu, .settled ⟨rfl, by simp⟩ rfl hsettled⟩
  | payment id =>
      obtain ⟨p, h, -⟩ := map_eq_ok.1 h
      exact unchanged ((Settlement.readsOnly_find id).of_ok h) ⟨rfl, by simp⟩
  | payments user page =>
      obtain ⟨ps, h, -⟩ := map_eq_ok.1 h
      exact unchanged ((readsOnly_look .listPayments _).of_ok h) ⟨rfl, by simp⟩

end Operation

/-! ## Steps and runs -/

/-- One operation with everything that decides its outcome except the store. -/
structure Step where
  gateways : Gateways
  operation : Operation
  draws : Draws
  faults : List Fault := []

namespace Step

def outcome (step : Step) (s : Store) : EStateM.Result ServiceError World Answer :=
  step.operation.perform step.gateways step.draws ⟨s, step.faults⟩

/-- The store after the step, whether it answered or failed. -/
def leaves (step : Step) (s : Store) : Store := left (step.outcome s)

/-- Whether the step answered. -/
def answered (step : Step) (s : Store) : Bool :=
  match step.outcome s with
  | .ok _ _ => true
  | .error _ _ => false

/-- Everything that a step can do, whichever calls of the store fail. -/
theorem does (step : Step) (precision : Precision) (hb : b.Lawful) :
    ∃ b', step.leaves (b.store precision) = b'.store precision ∧
      step.operation.Does b (step.answered (b.store precision)) b' := by
  unfold leaves answered
  cases h : step.outcome (b.store precision) with
  | ok answer u => exact Operation.of_perform_ok hb rfl h
  | error error u =>
      rcases Operation.of_perform_error hb rfl h with
        hu | ⟨user, amount, booking, a, p, hoperation, ha, rfl, hfresh, hrest⟩ |
          ⟨p, b', hoperation, -, hu, hamended⟩
      · exact ⟨b, hu, .nothing nofun⟩
      · obtain rfl := Amount.value_of_ofInt ha
        rcases hrest with hu | ⟨q, b', hfailed, hu, hamended⟩
        · exact ⟨_, hu, .requested hoperation nofun ⟨rfl, hfresh⟩⟩
        · exact ⟨b', hu, .declined (p := .requested _ user a _ booking _) hoperation rfl ⟨rfl, hfresh⟩
            hfailed hamended⟩
      · exact ⟨b', hu, .amended (hoperation ▸ ⟨rfl, nofun⟩) (.inl rfl) hamended⟩

theorem effects (step : Step) (precision : Precision) (hb : b.Lawful) :
    ∃ b', step.leaves (b.store precision) = b'.store precision ∧ b.Reaches b' := by
  obtain ⟨b', hb', hdoes⟩ := step.does precision hb
  exact ⟨b', hb', hdoes.reaches⟩

end Step

namespace Store

/-- The store without any rows. -/
def empty (precision : Precision) : Store := { precision }

/-- The store after a run of steps. -/
def after (s : Store) : List Step → Store
  | [] => s
  | step :: steps => (step.leaves s).after steps

end Store

namespace Books

/-- A run from lawful books passes through changes of the five sorts only. -/
theorem Lawful.run (hb : b.Lawful) (precision : Precision) (steps : List Step) :
    ∃ b', (b.store precision).after steps = b'.store precision ∧ b.Reaches b' := by
  induction steps generalizing b with
  | nil => exact ⟨b, rfl, .refl⟩
  | cons step steps ih =>
      obtain ⟨c, hc, hreach⟩ := step.effects precision hb
      obtain ⟨b', hb', hrest⟩ := ih (hreach.lawful hb)
      refine ⟨b', ?_, hreach.trans hrest⟩
      rw [Store.after, hc, hb']

/-- What holds of empty books and is kept by every change holds after every run. -/
theorem run_invariant {I : Books → Prop} (precision : Precision) (base : I {})
    (step : ∀ {b b' : Books}, b.Lawful → I b → b.Effect b' → I b') (steps : List Step) :
    ∃ b, (Store.empty precision).after steps = b.store precision ∧ b.Lawful ∧ I b := by
  obtain ⟨b, hb, hreach⟩ := lawful_empty.run precision steps
  refine ⟨b, hb, ?_⟩
  clear hb
  induction hreach with
  | refl => exact ⟨lawful_empty, base⟩
  | tail _ heffect ih => exact ⟨heffect.lawful ih.1, step ih.1 ih.2 heffect⟩

/-- What holds of some books, and is kept by every step of some sort, holds after a run of such steps. -/
theorem Lawful.run_steps {I : Books → Prop} {P : Step → Prop} (hb : b.Lawful) (base : I b)
    (step : ∀ {c : Books}, c.Lawful → I c → ∀ step, P step →
      ∃ c', step.leaves (c.store precision) = c'.store precision ∧ c'.Lawful ∧ I c')
    (steps : List Step) (hsteps : ∀ step ∈ steps, P step) :
    ∃ b', (b.store precision).after steps = b'.store precision ∧ b'.Lawful ∧ I b' := by
  induction steps generalizing b with
  | nil => exact ⟨b, rfl, hb, base⟩
  | cons first steps ih =>
      obtain ⟨c, hc, hlawful, hkept⟩ := step hb base first (hsteps first List.mem_cons_self)
      rw [Store.after, hc]
      exact ih hlawful hkept fun later hlater => hsteps later (List.mem_cons_of_mem first hlater)

theorem run_lawful (precision : Precision) (steps : List Step) :
    ∃ b : Books, (Store.empty precision).after steps = b.store precision ∧ b.Lawful := by
  obtain ⟨b, hb, hreach⟩ := lawful_empty.run precision steps
  exact ⟨b, hb, hreach.lawful lawful_empty⟩

end Books

namespace Store

/-- A store of lawful books that has a payment with a property. -/
def Keeps (s : Store) (precision : Precision) (P : Payment → Prop) : Prop :=
  ∃ b : Books, s = b.store precision ∧ b.Lawful ∧ ∃ p ∈ b.payments, P p

/-- Later there is a payment with a property that the steps of the first one lead to. -/
theorem Keeps.after {s : Store} {P Q : Payment → Prop} (h : s.Keeps precision P) (steps : List Step)
    (leads : ∀ p q, P p → p.Leads q → Q q) : (s.after steps).Keeps precision Q := by
  obtain ⟨b, rfl, hb, p, hp, hpp⟩ := h
  obtain ⟨b', hb', hreach⟩ := hb.run precision steps
  obtain ⟨q, hq, hlead⟩ := hreach.leads hb hp
  exact ⟨b', hb', hreach.lawful hb, q, hq, leads p q hpp hlead⟩

end Store

/-! ## Steps to try things with -/

/-- An identifier that is one digit over and over. -/
def Uuid.ofDigit (d : Nat) : Uuid := ⟨List.replicate 32 (lastHexDigit d), rfl⟩

/-- Noon of a day in spring. -/
def Timestamp.noon : Timestamp where
  date := ⟨2024, 5, 1, by decide, by decide, by decide, by decide⟩
  hour := 12
  minute := 0
  second := 0
  nanosecond := 0
  hour_lt := by decide
  minute_lt := by decide
  second_le := by decide
  nanosecond_lt := by decide

/-- Draws that differ from others by one digit. -/
def Draws.ofDigit (d : Nat) : Draws where
  walletId := ⟨.ofDigit d⟩
  entryId := ⟨.ofDigit d⟩
  paymentId := ⟨.ofDigit d⟩
  reference := .ofRandom d
  openedAt := .noon
  createdAt := .noon
  balanceAt := .noon
  recordedAt := .noon
  movedAt := .noon

/-- A step with both gateways and the draws of a digit. -/
def Operation.step (operation : Operation) (d : Nat) (faults : List Fault := []) : Step :=
  ⟨.hosted Gateway.defaultBaseA Gateway.defaultBaseB, operation, .ofDigit d, faults⟩

end Purse
