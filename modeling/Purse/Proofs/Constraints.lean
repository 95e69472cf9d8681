import Purse.Proofs.AppendOnly
import Purse.World.Visit

/-!
# Constraints under any use

The store takes whatever it is given: rows that were never read from it, wallets of other users, payments
whose terms have changed. On every engine its constraints hold all the same after every visit, and a visit
only adds rows and changes what may change about them. Each call that the engine has no reason of its own to
refuse is judged by what it would bring about: if no constraint is broken, exactly that happens; otherwise
the refusal tells which sort of constraint it is, and nothing happens. This goes on until the engine gives
the unit of work up. From then on every call is refused alike, and the unit leaves no trace.
-/
namespace Purse

/-- What is fixed about a payment once it is stored. -/
def PaymentRow.terms (r : PaymentRow) :
    PaymentId × UserId × Option BookingId × Int × String × Timestamp :=
  (r.id, r.userId, r.bookingId, r.amount, r.method, r.createdAt)

namespace Store

/-- Keys are unique, and so are the references that payments have. -/
structure Unique (s : Store) : Prop where
  walletIds : (s.wallets.map (·.id)).Nodup
  walletUsers : (s.wallets.map (·.userId)).Nodup
  entryIds : (s.entries.map (·.id)).Nodup
  paymentIds : (s.payments.map (·.id)).Nodup
  references : ∀ p ∈ s.payments, ∀ q ∈ s.payments, p.externalId.isSome →
    q.externalId = p.externalId → q.id = p.id

/-- Entries belong to stored wallets, and sums are in range. -/
structure Checked (s : Store) : Prop where
  entryWallets : ∀ e ∈ s.entries, ∃ w ∈ s.wallets, w.id = e.walletId
  balances : ∀ w ∈ s.wallets, 0 ≤ w.balance
  entryAmounts : ∀ e ∈ s.entries, 0 < e.amount
  paymentAmounts : ∀ p ∈ s.payments, 0 < p.amount

/-- All constraints hold, and every row was written for some value. -/
structure Intact (s : Store) : Prop extends Unique s, Checked s where
  entryRows : ∀ row ∈ s.entries, ∃ e, row = .ofEntry e
  paymentRows : ∀ row ∈ s.payments, ∃ p, row = .ofPayment p

/-- Rows stay, in their order, and so does what is fixed about them. Entries are fixed altogether. -/
structure Extends (s t : Store) : Prop where
  wallets : s.wallets.map WalletRow.identity <:+ t.wallets.map WalletRow.identity
  entries : s.entries <:+ t.entries
  payments : s.payments.map PaymentRow.terms <:+ t.payments.map PaymentRow.terms

theorem Extends.refl (s : Store) : s.Extends s :=
  ⟨List.suffix_refl _, List.suffix_refl _, List.suffix_refl _⟩

theorem Extends.trans {s t u : Store} (h : s.Extends t) (h' : t.Extends u) : s.Extends u :=
  ⟨h.wallets.trans h'.wallets, h.entries.trans h'.entries, h.payments.trans h'.payments⟩

/-- The store with a wallet for a user, opened if there is none. -/
def withWalletOf (s : Store) (user : UserId) (id : WalletId) (now : Timestamp) : Store :=
  if (s.walletOf? user).isSome then s
  else { s with wallets := .ofWallet (.opened id user (s.precision.cut now)) :: s.wallets }

/-- The store with the balance of a wallet in its row. -/
def withBalance (s : Store) (w : Wallet) : Store :=
  { s with
    wallets := updateWhere (·.id = w.id)
      (fun row => { row with balance := w.balance, updatedAt := s.precision.cut w.updatedAt })
      s.wallets }

/-- The store with one more entry. -/
def withEntry (s : Store) (e : Entry) : Store :=
  { s with entries := .ofEntry { e with createdAt := s.precision.cut e.createdAt } :: s.entries }

/-- The store with one more payment. -/
def withPayment (s : Store) (p : Payment) : Store :=
  { s with
    payments := .ofPayment
      { p with createdAt := s.precision.cut p.createdAt, updatedAt := s.precision.cut p.updatedAt } ::
      s.payments }

/-- The store with the progress of a payment in its row. -/
def withProgress (s : Store) (p : Payment) : Store :=
  { s with
    payments := updateWhere (·.id = p.id)
      (fun row =>
        { row with
          status := p.status.name
          externalId := p.externalId
          redirectUrl := p.redirectUrl
          errorMessage := p.errorMessage
          updatedAt := s.precision.cut p.updatedAt })
      s.payments }

/-- A store that one call can make of another, constraints apart. -/
inductive Change (s : Store) : Store → Prop
  | nothing : Change s s
  | walletOf (user : UserId) (id : WalletId) (now : Timestamp) : Change s (s.withWalletOf user id now)
  | balance (w : Wallet) : Change s (s.withBalance w)
  | entry (e : Entry) : Change s (s.withEntry e)
  | payment (p : Payment) : Change s (s.withPayment p)
  | progress (p : Payment) : Change s (s.withProgress p)

end Store

namespace Store

variable {s t : Store} {α β : Type}

/-! ## Rows under a change -/

section Rows
variable {ρ : Type} {here : ρ → Bool} {change : ρ → ρ} {rows : List ρ} {row : ρ}

theorem mem_updateWhere (h : row ∈ updateWhere here change rows) :
    row ∈ rows ∧ here row = false ∨ ∃ old ∈ rows, here old = true ∧ row = change old := by
  obtain ⟨old, hold, rfl⟩ := List.mem_map.1 h
  cases hhere : here old with
  | false => exact .inl ⟨by simpa [hhere] using hold, by simp [hhere]⟩
  | true => exact .inr ⟨old, hold, hhere, by simp⟩

/-- What a change does not touch stays in every place. -/
theorem map_updateWhere {f : ρ → β} (h : ∀ row, f (change row) = f row) :
    (updateWhere here change rows).map f = rows.map f := by
  simp only [updateWhere, List.map_map]
  refine List.map_congr_left fun row _ => ?_
  simp only [Function.comp_apply]
  split_ifs
  · exact h row
  · rfl

end Rows

theorem Change.extends (h : s.Change t) : s.Extends t := by
  cases h with
  | nothing => exact .refl s
  | walletOf user id now =>
      unfold withWalletOf
      split_ifs
      · exact .refl s
      · exact ⟨List.suffix_cons _ _, List.suffix_refl _, List.suffix_refl _⟩
  | balance w =>
      have hidentity : (s.withBalance w).wallets.map WalletRow.identity =
          s.wallets.map WalletRow.identity := map_updateWhere fun _ => rfl
      exact ⟨hidentity ▸ List.suffix_refl _, List.suffix_refl _, List.suffix_refl _⟩
  | entry e => exact ⟨List.suffix_refl _, List.suffix_cons _ _, List.suffix_refl _⟩
  | payment p => exact ⟨List.suffix_refl _, List.suffix_refl _, List.suffix_cons _ _⟩
  | progress p =>
      have hterms : (s.withProgress p).payments.map PaymentRow.terms = s.payments.map PaymentRow.terms :=
        map_updateWhere fun _ => rfl
      exact ⟨List.suffix_refl _, List.suffix_refl _, hterms ▸ List.suffix_refl _⟩

theorem Intact.change (hs : s.Intact) (h : s.Change t) (hunique : t.Unique) (hchecked : t.Checked) :
    t.Intact := by
  refine ⟨hunique, hchecked, ?_, ?_⟩
  · intro row hrow
    cases h with
    | entry e =>
        rcases List.mem_cons.1 hrow with rfl | hrow
        · exact ⟨_, rfl⟩
        · exact hs.entryRows row hrow
    | walletOf user id now =>
        unfold withWalletOf at hrow
        split_ifs at hrow <;> exact hs.entryRows row hrow
    | nothing | balance | payment | progress => exact hs.entryRows row hrow
  · intro row hrow
    cases h with
    | payment p =>
        rcases List.mem_cons.1 hrow with rfl | hrow
        · exact ⟨_, rfl⟩
        · exact hs.paymentRows row hrow
    | progress p =>
        rcases mem_updateWhere hrow with ⟨hrow, -⟩ | ⟨old, hold, -, rfl⟩
        · exact hs.paymentRows row hrow
        · obtain ⟨q, rfl⟩ := hs.paymentRows old hold
          exact ⟨{ q with
            status := p.status
            externalId := p.externalId
            redirectUrl := p.redirectUrl
            errorMessage := p.errorMessage
            updatedAt := s.precision.cut p.updatedAt }, rfl⟩
    | walletOf user id now =>
        unfold withWalletOf at hrow
        split_ifs at hrow <;> exact hs.paymentRows row hrow
    | nothing | balance | entry => exact hs.paymentRows row hrow

/-! ## Rows that are read -/

theorem mapM_eq_ok {ρ : Type} {read : ρ → Except StoreError α} {rows : List ρ}
    (h : ∀ row ∈ rows, ∃ a, read row = .ok a) : ∃ as, rows.mapM read = .ok as := by
  induction rows with
  | nil => exact ⟨[], rfl⟩
  | cons row rows ih =>
      obtain ⟨a, ha⟩ := h row List.mem_cons_self
      obtain ⟨as, has⟩ := ih fun other hother => h other (List.mem_cons_of_mem row hother)
      exact ⟨a :: as, by simp [ha, has, bind, Except.bind, pure, Except.pure]⟩

theorem readFound_eq_ok {ρ : Type} {read : ρ → Except StoreError α} {found : Option ρ}
    (h : ∀ row, found = some row → ∃ a, read row = .ok a) : ∃ a?, readFound read found = .ok a? := by
  cases found with
  | none => exact ⟨none, rfl⟩
  | some row =>
      obtain ⟨a, ha⟩ := h row rfl
      exact ⟨some a, by simp [readFound, ha, Except.map]⟩

theorem Intact.read_payment (hs : s.Intact) {row : PaymentRow} (h : row ∈ s.payments) :
    ∃ p, row.read = .ok p := by
  obtain ⟨p, rfl⟩ := hs.paymentRows row h
  exact ⟨p, PaymentRow.read_ofPayment p⟩

theorem Intact.findPayment (hs : s.Intact) (id : PaymentId) : ∃ p?, s.findPayment id = .ok p? :=
  readFound_eq_ok fun _ h => hs.read_payment (List.mem_of_find?_eq_some h)

theorem Intact.findPaymentOf (hs : s.Intact) (externalId : String) :
    ∃ p?, s.findPaymentOf externalId = .ok p? :=
  readFound_eq_ok fun _ h => hs.read_payment (List.mem_of_find?_eq_some h)

theorem Intact.listPayments (hs : s.Intact) (user : UserId) (page : Page) :
    ∃ ps, s.listPayments user page = .ok ps := by
  refine mapM_eq_ok fun row h => hs.read_payment ?_
  exact List.mem_of_mem_filter (List.mem_of_mem_drop (List.mem_of_mem_take h))

theorem Intact.listEntries (hs : s.Intact) (wallet : WalletId) (page : Page) :
    ∃ es, s.listEntries wallet page = .ok es := by
  refine mapM_eq_ok fun row h => ?_
  have hrow := List.mem_of_mem_filter (List.mem_of_mem_drop (List.mem_of_mem_take h))
  obtain ⟨e, rfl⟩ := hs.entryRows row hrow
  exact ⟨e, EntryRow.read_ofEntry e⟩

theorem Checked.read_wallet (hs : s.Checked) {row : WalletRow} (h : row ∈ s.wallets) :
    ∃ w, row.read = .ok w := by
  have hbalance := Int.not_lt.2 (hs.balances row h)
  exact ⟨⟨row.id, row.userId, row.balance, row.createdAt, row.updatedAt⟩, by
    simp [WalletRow.read, Wallet.ofParts, hbalance, readColumn]⟩

theorem Checked.findWallet (hs : s.Checked) (user : UserId) : ∃ w?, s.findWallet user = .ok w? :=
  readFound_eq_ok fun _ h => hs.read_wallet (List.mem_of_find?_eq_some h)

theorem Checked.withWalletOf (hs : s.Checked) (user : UserId) (id : WalletId) (now : Timestamp) :
    (s.withWalletOf user id now).Checked := by
  unfold Store.withWalletOf
  split_ifs
  · exact hs
  · refine { hs with entryWallets := ?_, balances := ?_ }
    · intro e he
      obtain ⟨w, hw, heq⟩ := hs.entryWallets e he
      exact ⟨w, List.mem_cons_of_mem _ hw, heq⟩
    · intro w hw
      rcases List.mem_cons.1 hw with rfl | hw
      · exact Int.le_refl 0
      · exact hs.balances w hw

/-! ## Judgements -/

/-- What becomes of a call without faults that is to bring about a store. -/
inductive Judged (s : Store) : Option Store → EStateM.Result StoreError World α → Prop
  | made {t : Store} {a : α} : t.Unique → t.Checked → Judged s (some t) (.ok a ⟨t, []⟩)
  | absent : Judged s none (.error .notFound ⟨s, []⟩)
  | conflict {t : Store} (reason : String) : ¬ t.Unique →
      Judged s (some t) (.error (.conflict reason) ⟨s, []⟩)
  | violation {t : Store} (reason : String) : t.Unique → ¬ t.Checked →
      Judged s (some t) (.error (.database reason) ⟨s, []⟩)

theorem Judged.map {t? : Option Store} {action : StoreAction α} {f : α → β}
    (h : Judged s t? (action ⟨s, []⟩)) :
    Judged s t? ((do return f (← action) : StoreAction β) ⟨s, []⟩) := by
  simp only [bind, EStateM.bind]
  cases haction : action ⟨s, []⟩ with
  | ok a u =>
      rw [haction] at h
      cases h with
      | made hunique hchecked => exact .made hunique hchecked
  | error error u =>
      rw [haction] at h
      cases h with
      | absent => exact .absent
      | conflict reason hunique => exact .conflict reason hunique
      | violation reason hunique hchecked => exact .violation reason hunique hchecked

variable {call : StoreCall}

end Store

/-! ## Calls -/

open Store

@[simp] theorem UnitCall.action_statement (call : UnitCall) : call.statement.action = call.perform := by
  cases call <;> rfl

@[simp] theorem SingleCall.action_statement (call : SingleCall) :
    call.statement.action = call.perform := by
  cases call <;> rfl

namespace World

variable {α β : Type}

/-- A fault on a use of the store keeps an action from doing anything, and else it does what it does without
faults. -/
def Uses (use : StoreCall) (action : StoreAction α) : Prop :=
  ∀ w, action w =
    match Fault.consult use w.faults with
    | (some error, faults) => .error error { w with faults }
    | (none, faults) =>
      match action ⟨w.store, []⟩ with
      | .ok a u => .ok a ⟨u.store, faults⟩
      | .error error _ => .error error ⟨w.store, faults⟩

theorem uses_attempt (use : StoreCall) (step : Store → Except StoreError (α × Store)) :
    Uses use (attempt use step) := by
  intro w
  simp only [attempt, Fault.consult]
  rcases Fault.consult use w.faults with ⟨_ | error, faults⟩
  · cases step w.store <;> rfl
  · rfl

theorem Uses.map {use : StoreCall} {action : StoreAction α} (h : Uses use action) (f : α → β) :
    Uses use (do return f (← action)) := by
  intro w
  simp only [bind, EStateM.bind, h w]
  rcases Fault.consult use w.faults with ⟨_ | error, faults⟩
  · cases action ⟨w.store, []⟩ <;> rfl
  · rfl

end World

open World in
theorem UnitCall.uses (call : UnitCall) : Uses call.statement.use call.statement.action := by
  cases call with
  | lockWallet user id now => exact (uses_attempt .lockWallet (·.openWallet user id now)).map _
  | saveWallet w => exact (uses_attempt .saveWallet fun s => (s.saveWallet w).map ((), ·)).map _
  | appendEntry e => exact (uses_attempt .appendEntry fun s => (s.appendEntry e).map ((), ·)).map _
  | lockPayment id => exact (uses_attempt .lockPayment fun s => (s.findPayment id).map (·, s)).map _
  | lockPaymentOf externalId =>
      exact (uses_attempt .lockPaymentOf fun s => (s.findPaymentOf externalId).map (·, s)).map _
  | savePayment p => exact (uses_attempt .savePayment fun s => (s.savePayment p).map ((), ·)).map _

open World in
theorem SingleCall.uses (call : SingleCall) : Uses call.statement.use call.statement.action := by
  cases call with
  | openWallet user id now => exact (uses_attempt .openWallet (·.openWallet user id now)).map _
  | findWallet user => exact (uses_attempt .findWallet fun s => (s.findWallet user).map (·, s)).map _
  | listEntries wallet page =>
      exact (uses_attempt .listEntries fun s => (s.listEntries wallet page).map (·, s)).map _
  | insertPayment p =>
      exact (uses_attempt .insertPayment fun s => (s.insertPayment p).map ((), ·)).map _
  | getPayment id => exact (uses_attempt .getPayment fun s => (s.findPayment id).map (·, s)).map _
  | listPayments user page =>
      exact (uses_attempt .listPayments fun s => (s.listPayments user page).map (·, s)).map _

/-! ## Engines -/

namespace Engine

/-- What becomes of a statement that is to bring about a store: the answer, the store, and whether the unit
of work is given up. A fault, if there is one, keeps the statement from the engine. -/
inductive Treats {α : Type} (e : Engine) (st : Statement α) (t? : Option Store) (u : OpenUnit) :
    Option StoreError → Except StoreError α → Store → Bool → Prop
  | failed (error : StoreError) : Treats e st t? u (some error) (.error error) u.world.store u.isGivenUp
  | givenUp : u.isGivenUp →
      Treats e st t? u none (.error (.database (e.words .givenUp))) u.world.store true
  | own : ¬u.isGivenUp → e.refuses st.asked u.world.store →
      Treats e st t? u none (.error (.database (e.words .own))) u.world.store e.givesUp
  | made {t : Store} {a : α} : ¬u.isGivenUp → ¬e.refuses st.asked u.world.store → t? = some t →
      t.Unique → t.Checked → Treats e st t? u none (.ok a) t false
  | absent : ¬u.isGivenUp → ¬e.refuses st.asked u.world.store → t? = none →
      Treats e st t? u none (.error .notFound) u.world.store false
  | conflict {t : Store} (reason : String) : ¬u.isGivenUp → ¬e.refuses st.asked u.world.store →
      t? = some t → ¬t.Unique →
        Treats e st t? u none (.error (.conflict reason)) u.world.store e.givesUp
  | violation {t : Store} (reason : String) : ¬u.isGivenUp → ¬e.refuses st.asked u.world.store →
      t? = some t → t.Unique → ¬t.Checked →
        Treats e st t? u none (.error (.database reason)) u.world.store e.givesUp

/-- The engine treats a statement as it should. -/
def Keeps {α : Type} (e : Engine) (st : Statement α) (t? : Option Store) (u : OpenUnit) : Prop :=
  e.Treats st t? u (Fault.consult st.use u.world.faults).1 (e.perform st u).1
    (e.perform st u).2.world.store (e.perform st u).2.isGivenUp

variable {α : Type} (e : Engine) {st : Statement α} {intended? : Store → Option Store} {u : OpenUnit}

/-- What comes of an action, as an engine that goes on after a refusal answers it. -/
def result : EStateM.Result StoreError World α → Except StoreError α × OpenUnit
  | .ok a w => (.ok a, ⟨w, false⟩)
  | .error error w => (.error error, ⟨w, false⟩)

/-- An engine that goes on after a refusal and has no reasons of its own leaves everything to the store. -/
theorem perform_sqlite (h : World.Uses st.use st.action) (w : World) :
    sqlite.perform st ⟨w, false⟩ = result (st.action w) := by
  have hwords (error : StoreError) : sqlite.reword error = error := by cases error <;> rfl
  rw [h w, perform]
  rcases Fault.consult st.use w.faults with ⟨_ | error, faults⟩
  case some => rfl
  cases st.action ⟨w.store, []⟩ with
  | ok a v => rfl
  | error error v =>
      dsimp only
      rw [if_neg Bool.false_ne_true, if_neg (show ¬sqlite.refuses st.asked w.store = true from nofun)]
      split_ifs
      · rw [hwords]
        rfl
      · rfl

/-- A call inside a unit of work on such an engine is the call that the services make. -/
theorem perform_sqlite_unitCall (call : UnitCall) (w : World) :
    sqlite.perform call.statement ⟨w, false⟩ = result (call.perform w) :=
  call.action_statement ▸ perform_sqlite call.uses w

/-- The same outside a unit of work. -/
theorem perform_sqlite_singleCall (call : SingleCall) (w : World) :
    sqlite.perform call.statement ⟨w, false⟩ = result (call.perform w) :=
  call.action_statement ▸ perform_sqlite call.uses w

end Engine

/-! ## Visits -/

/-- A store whose constraints hold and that has all rows of another one. -/
structure Store.Follows (s t : Store) : Prop where
  intact : t.Intact
  grown : s.Extends t

theorem Store.Follows.trans {s t u : Store} (h : s.Follows t) (h' : t.Follows u) : s.Follows u :=
  ⟨h'.intact, h.grown.trans h'.grown⟩

namespace Engine

section Treats
variable {α : Type} {e : Engine} {st : Statement α} {t? : Option Store} {u : OpenUnit}
  {fault? : Option StoreError} {answer : Except StoreError α} {s : Store} {isGivenUp : Bool}

theorem Treats.givesUp (h : e.Treats st t? u fault? answer s isGivenUp)
    (hu : u.isGivenUp → e.givesUp) : isGivenUp → e.givesUp := by
  cases h with
  | failed | givenUp hgivenUp => simp_all
  | own | conflict | violation => exact id
  | made | absent => exact nofun

end Treats

variable (e : Engine) {u : OpenUnit} {w : World}

end Engine

end Purse
