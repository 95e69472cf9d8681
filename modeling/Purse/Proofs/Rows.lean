import Purse.Proofs.Constraints
import Purse.Proofs.Json.Faithful
import Purse.Proofs.Paging

/-!
# Rows that are written and read

A row that is written for a wallet, an entry or a payment is read back as the same one, and no other row
is read as it. A row with any other contents is readable exactly if its names are names and its sum is in
range; if it is not, reading it is an error of the database that says which rule it breaks.

So on any store, whatever its rows hold, a payment that is inserted or saved and an entry that is appended
are found again as they were written, with their times as the store keeps them; and a list is answered only
if every row of its window can be read.
-/
namespace Purse

/-! ## What a row has to hold -/

namespace WalletRow

def Readable (r : WalletRow) : Prop := 0 ≤ r.balance

end WalletRow

namespace EntryRow

def Readable (r : EntryRow) : Prop := r.kind ∈ EntryKind.all.map (·.name) ∧ 0 < r.amount

end EntryRow

namespace PaymentRow

def Readable (r : PaymentRow) : Prop :=
  r.method ∈ PaymentMethod.all.map (·.name) ∧ r.status ∈ PaymentStatus.all.map (·.name) ∧ 0 < r.amount

end PaymentRow

/-- The error of a row that breaks a rule. -/
def IsCorrupt (cause : StoreError) : Prop :=
  ∃ rule : LedgerError, cause = .database ("corrupt row: " ++ rule.message)

section Sorts
variable {α ρ : Type}

/-- What is written for a fit value is read back as that value and as no other, and reading any row that
the columns can hold succeeds exactly if the row is readable. -/
structure RowsFaithful (write : α → ρ) (read : ρ → Except StoreError α) (Fit : α → Prop)
    (Columns Readable : ρ → Prop) : Prop where
  read_write : ∀ a, Fit a → read (write a) = .ok a
  write_read : ∀ r a, read r = .ok a → write a = r ∧ Fit a
  readable : ∀ r, Columns r → ((∃ a, read r = .ok a) ↔ Readable r)
  corrupt : ∀ r, (∀ a, read r ≠ .ok a) → ∃ cause, read r = .error cause ∧ IsCorrupt cause

/-- What a list query answers on a store without faults: all rows of the window that is asked for, read one
by one, and an error if one of them cannot be read. -/
structure Store.ListsRows (s : Store) (rows : List ρ) (read : ρ → Except StoreError α)
    (query : Page → StoreAction (List α)) : Prop where
  answers : ∀ page as, query page ⟨s, []⟩ = .ok as ⟨s, []⟩ ↔ (page.slice rows).map read = as.map .ok
  reports : ∀ page, (∃ row ∈ page.slice rows, ∀ a, read row ≠ .ok a) →
    ∃ cause, query page ⟨s, []⟩ = .error cause ⟨s, []⟩ ∧ IsCorrupt cause

end Sorts

namespace Store

/-- A payment is found as this record, inside a unit of work and outside. -/
def Gives (s : Store) (p : Payment) : Prop :=
  World.getPayment p.id ⟨s, []⟩ = .ok (some p) ⟨s, []⟩ ∧
    World.lockPayment p.id ⟨s, []⟩ = .ok (some p) ⟨s, []⟩

/-- Nothing that is stored stands against a new payment. -/
def AdmitsPayment (s : Store) (p : Payment) : Prop :=
  ∀ row ∈ s.payments, row.id ≠ p.id ∧ (p.externalId.isSome → row.externalId ≠ p.externalId)

/-- Nothing that is stored stands against a change of a payment. -/
def AdmitsReference (s : Store) (p : Payment) : Prop :=
  ∀ row ∈ s.payments, row.id ≠ p.id → p.externalId.isSome → row.externalId ≠ p.externalId

/-- What is written to a store is found there afterwards, whatever else it holds. -/
structure Returns (s : Store) : Prop where
  inserted : ∀ p, s.AdmitsPayment p →
    ∃ t, World.insertPayment p ⟨s, []⟩ = .ok () ⟨t, []⟩ ∧ t.Gives (p.keptAt s.precision)
  refused : ∀ p, ¬ s.AdmitsPayment p →
    ∃ column, World.insertPayment p ⟨s, []⟩ = .error (.duplicate column) ⟨s, []⟩
  saved : ∀ p row, s.payment? p.id = some row → row.terms = (PaymentRow.ofPayment p).terms →
    s.AdmitsReference p → ∃ t, World.savePayment p ⟨s, []⟩ = .ok () ⟨t, []⟩ ∧
      t.Gives { p with updatedAt := s.precision.cut p.updatedAt }
  appended : ∀ e, (∀ row ∈ s.entries, row.id ≠ e.id) → (∃ row ∈ s.wallets, row.id = e.walletId) →
    ∃ t, World.appendEntry e ⟨s, []⟩ = .ok () ⟨t, []⟩ ∧ ∀ (limit : Int) (older : List Entry),
      ((s.entries.filter (·.walletId = e.walletId)).take ((Page.of limit 0).limit - 1)).map EntryRow.read =
        older.map .ok →
      World.listEntries e.walletId (.of limit 0) ⟨t, []⟩ = .ok (e.keptAt s.precision :: older) ⟨t, []⟩
  balanced : ∀ w row, s.walletOf? w.userId = some row → row.identity = w.identity → 0 ≤ w.balance →
    ∃ t, World.saveWallet w ⟨s, []⟩ = .ok () ⟨t, []⟩ ∧ World.findWallet w.userId ⟨t, []⟩ =
      .ok (some { w with updatedAt := s.precision.cut w.updatedAt }) ⟨t, []⟩

end Store

/-! ## Names and amounts in columns -/

section Columns
variable {α : Type}

theorem readColumn_eq_ok {x : Except LedgerError α} {a : α} : readColumn x = .ok a ↔ x = .ok a := by
  cases x <;> simp [readColumn]

theorem readColumnName_eq_ok {ofName? : String → Option α} {unknown : String → LedgerError}
    {name : String} {a : α} : readColumnName ofName? unknown name = .ok a ↔ ofName? name = some a := by
  unfold readColumnName
  cases ofName? name <;> simp

theorem isCorrupt_of_readColumn {x : Except LedgerError α} {cause : StoreError}
    (h : readColumn x = .error cause) : IsCorrupt cause := by
  cases x with
  | ok a => cases h
  | error rule => exact ⟨rule, (Except.error.inj h).symm⟩

theorem isCorrupt_of_readColumnName {ofName? : String → Option α} {unknown : String → LedgerError}
    {name : String} {cause : StoreError} (h : readColumnName ofName? unknown name = .error cause) :
    IsCorrupt cause := by
  unfold readColumnName at h
  split at h
  · cases h
  · exact ⟨_, (Except.error.inj h).symm⟩

/-- The columns of a row are read one after the other. -/
theorem isCorrupt_of_bind {β : Type} {x : Except StoreError α} {f : α → Except StoreError β}
    (hx : ∀ cause, x = .error cause → IsCorrupt cause)
    (hf : ∀ a cause, f a = .error cause → IsCorrupt cause) (cause : StoreError)
    (h : x >>= f = .error cause) : IsCorrupt cause := by
  rcases Json.bind_eq_error.1 h with h | ⟨a, -, h⟩
  · exact hx cause h
  · exact hf a cause h

theorem exists_corrupt {ρ : Type} {read : ρ → Except StoreError α}
    (h : ∀ r cause, read r = .error cause → IsCorrupt cause) (r : ρ) (hbad : ∀ a, read r ≠ .ok a) :
    ∃ cause, read r = .error cause ∧ IsCorrupt cause := by
  cases hread : read r with
  | ok a => exact absurd hread (hbad a)
  | error cause => exact ⟨cause, rfl, h r cause hread⟩

end Columns

theorem EntryKind.name_of_ofName? {name : String} {k : EntryKind} (h : ofName? name = some k) :
    k.name = name := by
  unfold ofName? at h
  split_ifs at h with h₁ h₂ h₃ h₄ h₅ <;> cases h <;> exact Eq.symm ‹_›

theorem PaymentMethod.name_of_ofName? {name : String} {m : PaymentMethod} (h : ofName? name = some m) :
    m.name = name := by
  unfold ofName? at h
  split_ifs at h with h₁ h₂ h₃ <;> cases h <;> exact Eq.symm ‹_›

theorem PaymentStatus.name_of_ofName? {name : String} {s : PaymentStatus} (h : ofName? name = some s) :
    s.name = name := by
  unfold ofName? at h
  split_ifs at h with h₁ h₂ h₃ h₄ <;> cases h <;> exact Eq.symm ‹_›

theorem EntryKind.mem_all (k : EntryKind) : k ∈ all := by cases k <;> decide

theorem PaymentMethod.mem_all (m : PaymentMethod) : m ∈ all := by cases m <;> decide

theorem PaymentStatus.mem_all (s : PaymentStatus) : s ∈ all := by cases s <;> decide

/-! ## Rows -/

namespace WalletRow

theorem read_eq_ok {r : WalletRow} {w : Wallet} : r.read = .ok w ↔ ofWallet w = r ∧ 0 ≤ w.balance := by
  rw [read, readColumn_eq_ok, Wallet.ofParts]
  constructor
  · intro h
    split_ifs at h with hneg
    cases h
    exact ⟨rfl, Int.not_lt.1 hneg⟩
  · rintro ⟨rfl, hbalance⟩
    exact if_neg (Int.not_lt.2 hbalance)

theorem faithful : RowsFaithful ofWallet read (0 ≤ ·.balance) (fun _ => True) Readable where
  read_write _ h := read_ofWallet h
  write_read _ _ h := read_eq_ok.1 h
  readable r _ := by
    constructor
    · rintro ⟨w, hread⟩
      obtain ⟨rfl, hbalance⟩ := read_eq_ok.1 hread
      exact hbalance
    · exact fun h => ⟨⟨r.id, r.userId, r.balance, r.createdAt, r.updatedAt⟩, read_eq_ok.2 ⟨rfl, h⟩⟩
  corrupt := exists_corrupt fun _ _ h => isCorrupt_of_readColumn h

end WalletRow

namespace EntryRow

theorem read_eq_ok {r : EntryRow} {e : Entry} : r.read = .ok e ↔ ofEntry e = r := by
  constructor
  · intro h
    obtain ⟨kind, hkind, h⟩ := Json.bind_eq_ok.1 h
    obtain ⟨amount, hamount, h⟩ := Json.bind_eq_ok.1 h
    have hname := EntryKind.name_of_ofName? (readColumnName_eq_ok.1 hkind)
    have hvalue := Amount.value_of_ofInt (readColumn_eq_ok.1 hamount)
    cases h
    simp only [ofEntry, hname, hvalue]
  · rintro rfl
    exact read_ofEntry e

theorem faithful :
    RowsFaithful ofEntry read (fun _ => True) (fun r => Numeral.isWord r.amount) Readable where
  read_write e _ := read_ofEntry e
  write_read _ _ h := ⟨read_eq_ok.1 h, trivial⟩
  readable r hword := by
    constructor
    · rintro ⟨e, hread⟩
      obtain rfl := read_eq_ok.1 hread
      exact ⟨List.mem_map_of_mem e.kind.mem_all, e.amount.pos⟩
    · rintro ⟨hkind, hpos⟩
      obtain ⟨kind, -, hname⟩ := List.mem_map.1 hkind
      obtain ⟨amount, -, hvalue⟩ := Amount.exists_of_pos hword hpos
      refine ⟨⟨r.id, r.walletId, kind, amount, r.description, r.bookingId, r.paymentId, r.createdAt⟩, ?_⟩
      exact read_eq_ok.2 (by simp only [ofEntry, hname, hvalue])
  corrupt := exists_corrupt fun _ =>
    isCorrupt_of_bind (fun _ => isCorrupt_of_readColumnName) fun _ =>
      isCorrupt_of_bind (fun _ => isCorrupt_of_readColumn) fun _ _ h => by cases h

end EntryRow

namespace PaymentRow

theorem read_eq_ok {r : PaymentRow} {p : Payment} : r.read = .ok p ↔ ofPayment p = r := by
  constructor
  · intro h
    obtain ⟨method, hmethod, h⟩ := Json.bind_eq_ok.1 h
    obtain ⟨status, hstatus, h⟩ := Json.bind_eq_ok.1 h
    obtain ⟨amount, hamount, h⟩ := Json.bind_eq_ok.1 h
    have hname := PaymentMethod.name_of_ofName? (readColumnName_eq_ok.1 hmethod)
    have hstatus := PaymentStatus.name_of_ofName? (readColumnName_eq_ok.1 hstatus)
    have hvalue := Amount.value_of_ofInt (readColumn_eq_ok.1 hamount)
    cases h
    simp only [ofPayment, hname, hstatus, hvalue]
  · rintro rfl
    exact read_ofPayment p

theorem faithful :
    RowsFaithful ofPayment read (fun _ => True) (fun r => Numeral.isWord r.amount) Readable where
  read_write p _ := read_ofPayment p
  write_read _ _ h := ⟨read_eq_ok.1 h, trivial⟩
  readable r hword := by
    constructor
    · rintro ⟨p, hread⟩
      obtain rfl := read_eq_ok.1 hread
      exact ⟨List.mem_map_of_mem p.method.mem_all, List.mem_map_of_mem p.status.mem_all, p.amount.pos⟩
    · rintro ⟨hmethod, hstatus, hpos⟩
      obtain ⟨method, -, hmethod⟩ := List.mem_map.1 hmethod
      obtain ⟨status, -, hstatus⟩ := List.mem_map.1 hstatus
      obtain ⟨amount, -, hvalue⟩ := Amount.exists_of_pos hword hpos
      refine ⟨⟨r.id, r.userId, r.bookingId, amount, method, status, r.externalId, r.redirectUrl,
        r.errorMessage, r.createdAt, r.updatedAt⟩, ?_⟩
      exact read_eq_ok.2 (by simp only [ofPayment, hmethod, hstatus, hvalue])
  corrupt := exists_corrupt fun _ =>
    isCorrupt_of_bind (fun _ => isCorrupt_of_readColumnName) fun _ =>
      isCorrupt_of_bind (fun _ => isCorrupt_of_readColumnName) fun _ =>
        isCorrupt_of_bind (fun _ => isCorrupt_of_readColumn) fun _ _ h => by cases h

end PaymentRow

/-! ## Lists -/

section Lists
variable {α ρ : Type} {read : ρ → Except StoreError α} {rows : List ρ}

theorem mapM_eq_ok_iff {as : List α} : rows.mapM read = .ok as ↔ rows.map read = as.map .ok := by
  induction rows generalizing as with
  | nil => cases as <;> simp [pure, Except.pure]
  | cons row rows ih =>
      rw [List.mapM_cons, Json.bind_eq_ok, List.map_cons]
      constructor
      · rintro ⟨a, ha, h⟩
        obtain ⟨rest, hrest, h⟩ := Json.bind_eq_ok.1 h
        obtain rfl := Except.ok.inj h
        rw [ha, ih.1 hrest, List.map_cons]
      · intro h
        cases as with
        | nil => cases h
        | cons a rest =>
            obtain ⟨ha, hrest⟩ := List.cons.inj h
            exact ⟨a, ha, Json.bind_eq_ok.2 ⟨rest, ih.2 hrest, rfl⟩⟩

/-- The error is the one of the first row that cannot be read. -/
theorem mapM_eq_error {cause : StoreError} (h : rows.mapM read = .error cause) :
    ∃ row ∈ rows, read row = .error cause := by
  induction rows with
  | nil => cases h
  | cons row rows ih =>
      rw [List.mapM_cons] at h
      rcases Json.bind_eq_error.1 h with hrow | ⟨a, -, h⟩
      · exact ⟨row, List.mem_cons_self, hrow⟩
      · rcases Json.bind_eq_error.1 h with hrest | ⟨as, -, h⟩
        · obtain ⟨other, hother, hread⟩ := ih hrest
          exact ⟨other, List.mem_cons_of_mem row hother, hread⟩
        · cases h

/-- A query that reads the rows of its window one by one. -/
theorem Store.listsRows {s : Store} {call : StoreCall} {list : Page → Store → Except StoreError (List α)}
    (hlist : ∀ page, list page s = (page.slice rows).mapM read)
    (hcorrupt : ∀ r, (∀ a, read r ≠ .ok a) → ∃ cause, read r = .error cause ∧ IsCorrupt cause) :
    s.ListsRows rows read (fun page => World.look call (list page)) where
  answers page as := by
    rw [← mapM_eq_ok_iff, ← hlist]
    constructor
    · exact fun h => (World.of_look_ok h).1
    · exact World.look_eq_ok
  reports page := by
    rintro ⟨row, hrow, hbad⟩
    cases hread : (page.slice rows).mapM read with
    | ok as =>
        have hmem := List.mem_map_of_mem (f := read) hrow
        rw [mapM_eq_ok_iff.1 hread] at hmem
        obtain ⟨a, -, ha⟩ := List.mem_map.1 hmem
        exact absurd ha.symm (hbad a)
    | error cause =>
        obtain ⟨other, -, hother⟩ := mapM_eq_error hread
        obtain ⟨cause', hcause', hcorrupt⟩ := hcorrupt other fun a ha => by rw [hother] at ha; cases ha
        obtain rfl := Except.error.inj (hother.symm.trans hcause')
        refine ⟨cause, World.look_eq_error ?_, hcorrupt⟩
        rw [hlist, hread]

end Lists

/-! ## What is written is found -/

namespace Store

variable {s : Store} {p : Payment}

theorem find?_updateWhere {ρ : Type} {here P : ρ → Bool} {change : ρ → ρ} {rows : List ρ}
    (h : ∀ row, P (change row) = P row) :
    (updateWhere here change rows).find? P =
      (rows.find? P).map fun row => if here row then change row else row := by
  have hsame : (P ∘ fun row => if here row then change row else row) = P := by
    funext row
    simp only [Function.comp_apply]
    split_ifs
    · exact h row
    · rfl
  rw [updateWhere, List.find?_map, hsame]

theorem gives_of_payment? (h : s.payment? p.id = some (.ofPayment p)) : s.Gives p := by
  have hfind : s.findPayment p.id = .ok (some p) := by
    rw [findPayment, h, readFound, PaymentRow.read_ofPayment]
    rfl
  exact ⟨World.look_eq_ok hfind, World.look_eq_ok hfind⟩

theorem insertPayment_cases (s : Store) (p : Payment) :
    (s.AdmitsPayment p → s.insertPayment p = .ok (s.withPayment p)) ∧
      (¬ s.AdmitsPayment p → ∃ column, s.insertPayment p = .error (.duplicate column)) := by
  have hreference : (p.externalId.isSome && s.payments.any (·.externalId = p.externalId)) = true ↔
      ∃ row ∈ s.payments, p.externalId.isSome ∧ row.externalId = p.externalId := by
    simp only [Bool.and_eq_true, List.any_eq_true, decide_eq_true_eq]
    tauto
  have hid : s.payments.any (·.id = p.id) = true ↔ ∃ row ∈ s.payments, row.id = p.id := by simp
  unfold insertPayment AdmitsPayment
  refine ⟨fun h => ?_, fun h => ?_⟩
  · rw [if_neg, if_neg]
    · rfl
    · exact fun hany => by
        obtain ⟨row, hrow, heq⟩ := hid.1 hany
        exact (h row hrow).1 heq
    · exact fun hany => by
        obtain ⟨row, hrow, hsome, heq⟩ := hreference.1 hany
        exact (h row hrow).2 hsome heq
  · split_ifs with htaken hknown
    · exact ⟨_, rfl⟩
    · exact ⟨_, rfl⟩
    · refine absurd (fun row hrow => ⟨fun heq => ?_, fun hsome heq => ?_⟩) h
      · exact hknown (hid.2 ⟨row, hrow, heq⟩)
      · exact htaken (hreference.2 ⟨row, hrow, hsome, heq⟩)

theorem payment?_withPayment (s : Store) (p : Payment) :
    (s.withPayment p).payment? p.id = some (.ofPayment (p.keptAt s.precision)) :=
  List.find?_cons_of_pos (decide_eq_true rfl)

theorem savePayment_admitted {row : PaymentRow} (hrow : s.payment? p.id = some row)
    (h : s.AdmitsReference p) : s.savePayment p = .ok (s.withProgress p) := by
  unfold savePayment
  rw [if_neg, if_neg]
  · rfl
  · intro htaken
    simp only [referenceTaken, Bool.and_eq_true, List.any_eq_true, decide_eq_true_eq] at htaken
    obtain ⟨hsome, other, hother, hid, heq⟩ := htaken
    exact h other hother (by simpa using hid) hsome heq
  · have hmem := List.mem_of_find?_eq_some hrow
    have hid := List.find?_some hrow
    simpa using ⟨row, hmem, by simpa using hid⟩

/-- The progress of a payment in a row that has its terms makes it the row of the payment. -/
theorem payment?_withProgress {row : PaymentRow} (hrow : s.payment? p.id = some row)
    (hterms : row.terms = (PaymentRow.ofPayment p).terms) :
    (s.withProgress p).payment? p.id =
      some (.ofPayment { p with updatedAt := s.precision.cut p.updatedAt }) := by
  rw [payment?] at hrow
  simp only [PaymentRow.terms, PaymentRow.ofPayment, Prod.mk.injEq] at hterms
  obtain ⟨hid, huser, hbooking, hamount, hmethod, hcreated⟩ := hterms
  rw [payment?, withProgress, find?_updateWhere, hrow]
  · simp only [Option.map_some, hid, decide_true, if_true, PaymentRow.ofPayment, huser,
      hbooking, hamount, hmethod, hcreated]
  · exact fun _ => rfl

theorem appendEntry_admitted {e : Entry} (hid : ∀ row ∈ s.entries, row.id ≠ e.id)
    (hwallet : ∃ row ∈ s.wallets, row.id = e.walletId) : s.appendEntry e = .ok (s.withEntry e) := by
  unfold appendEntry
  rw [if_neg (by simpa using hid), if_neg (by simpa using hwallet)]
  rfl

theorem listEntries_withEntry {e : Entry} {limit : Int} {older : List Entry}
    (h : ((s.entries.filter (·.walletId = e.walletId)).take ((Page.of limit 0).limit - 1)).map EntryRow.read =
      older.map .ok) :
    (s.withEntry e).listEntries e.walletId (.of limit 0) = .ok (e.keptAt s.precision :: older) := by
  obtain ⟨n, hn⟩ := Nat.exists_eq_add_of_lt (Page.of limit 0).limit_pos
  have hoffset : (Page.of limit 0).offset = 0 := rfl
  rw [hn] at h
  rw [listEntries, mapM_eq_ok_iff, Page.slice, hoffset, hn, List.drop_zero, withEntry,
    List.filter_cons_of_pos (by simp [EntryRow.ofEntry]), List.take_succ_cons, List.map_cons, List.map_cons,
    EntryRow.read_ofEntry]
  exact congrArg _ (by simpa using h)

theorem saveWallet_admitted {w : Wallet} {row : WalletRow} (hrow : s.walletOf? w.userId = some row)
    (hid : row.id = w.id) (hbalance : 0 ≤ w.balance) : s.saveWallet w = .ok (s.withBalance w) := by
  unfold saveWallet
  rw [if_neg, if_neg (Int.not_lt.2 hbalance)]
  · rfl
  · have hmem := List.mem_of_find?_eq_some hrow
    simpa using ⟨row, hmem, hid⟩

theorem findWallet_withBalance {w : Wallet} {row : WalletRow} (hrow : s.walletOf? w.userId = some row)
    (hidentity : row.identity = w.identity) (hbalance : 0 ≤ w.balance) :
    (s.withBalance w).findWallet w.userId =
      .ok (some { w with updatedAt := s.precision.cut w.updatedAt }) := by
  simp only [WalletRow.identity, Wallet.identity, Prod.mk.injEq] at hidentity
  obtain ⟨hid, huser, hcreated⟩ := hidentity
  rw [walletOf?] at hrow
  have hfound : (s.withBalance w).walletOf? w.userId =
      some (.ofWallet { w with updatedAt := s.precision.cut w.updatedAt }) := by
    rw [walletOf?, withBalance, find?_updateWhere, hrow]
    · simp only [Option.map_some, hid, decide_true, if_true, WalletRow.ofWallet, huser, hcreated]
    · exact fun _ => rfl
  have hread := WalletRow.read_ofWallet (w := { w with updatedAt := s.precision.cut w.updatedAt }) hbalance
  simp only [findWallet, hfound, readFound, hread, Except.map]

theorem returns (s : Store) : s.Returns where
  inserted p h := ⟨_, World.write_eq_ok ((s.insertPayment_cases p).1 h),
    gives_of_payment? (s.payment?_withPayment p)⟩
  refused p h := by
    obtain ⟨column, hrefused⟩ := (s.insertPayment_cases p).2 h
    exact ⟨column, World.write_eq_error hrefused⟩
  saved p row hrow hterms h := ⟨_, World.write_eq_ok (savePayment_admitted hrow h),
    gives_of_payment? (payment?_withProgress hrow hterms)⟩
  appended e hid hwallet := ⟨_, World.write_eq_ok (appendEntry_admitted hid hwallet),
    fun _ _ h => World.look_eq_ok (listEntries_withEntry h)⟩
  balanced w row hrow hidentity hbalance := by
    have hid : row.id = w.id := (Prod.mk.inj hidentity).1
    exact ⟨_, World.write_eq_ok (saveWallet_admitted hrow hid hbalance),
      World.look_eq_ok (findWallet_withBalance hrow hidentity hbalance)⟩

/-- Rows of all three sorts are faithful. On any store, whatever its rows hold, what is written is found
as it was written, and a list is answered exactly if every row of its window is readable. -/
theorem rows_faithful :
    RowsFaithful WalletRow.ofWallet WalletRow.read (0 ≤ ·.balance) (fun _ => True) WalletRow.Readable ∧
    RowsFaithful EntryRow.ofEntry EntryRow.read (fun _ => True) (fun r => Numeral.isWord r.amount)
      EntryRow.Readable ∧
    RowsFaithful PaymentRow.ofPayment PaymentRow.read (fun _ => True) (fun r => Numeral.isWord r.amount)
      PaymentRow.Readable ∧
    ∀ s : Store, s.Returns ∧
      (∀ wallet, s.ListsRows (s.entries.filter (·.walletId = wallet)) EntryRow.read
        (World.listEntries wallet)) ∧
      ∀ user, s.ListsRows (s.payments.filter (·.userId = user)) PaymentRow.read
        (World.listPayments user) :=
  ⟨WalletRow.faithful, EntryRow.faithful, PaymentRow.faithful, fun s => ⟨s.returns,
    fun _ => listsRows (fun _ => rfl) EntryRow.faithful.corrupt,
    fun _ => listsRows (fun _ => rfl) PaymentRow.faithful.corrupt⟩⟩

end Store
end Purse
