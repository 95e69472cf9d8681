import Purse.CommandLine
import Purse.Proofs.Json.Wide
import Purse.Proofs.Rows

/-!
# The command line speaks for the client

A command whose arguments name what they should makes the call that they ask for, with one request and no
other. It succeeds exactly if the call does, and what it prints is read as the reply to the call. Any
other command sends nothing and fails.
-/
namespace Purse

/-! ## Replies -/

namespace Call

variable {c : Call} {status : Nat} {body : String} {reply : Reply}

/-- The body is a value of the call's type, and this is the reply that it makes. -/
inductive Brings (body : String) : Call → Reply → Prop
  | wallet {user : UserId} {w : Wallet} (h : Wire.decode Wallet body = .ok w) :
      Brings body (.wallet user) (.answer (.wallet w))
  | balance {user : UserId} {report : BalanceReport} (h : Wire.decode BalanceReport body = .ok report) :
      Brings body (.balance user) (.answer (.balance report.balance))
  | deposit {user : UserId} {amount : Int} {description : Option String} {e : Entry}
      (h : Wire.decode Entry body = .ok e) :
      Brings body (.deposit user amount description) (.answer (.entry e))
  | withdraw {user : UserId} {amount : Int} {description : Option String} {e : Entry}
      (h : Wire.decode Entry body = .ok e) :
      Brings body (.withdraw user amount description) (.answer (.entry e))
  | history {user : UserId} {limit offset : Int} {es : List Entry}
      (h : Wire.decode (List Entry) body = .ok es) :
      Brings body (.history user limit offset) (.answer (.entries es))
  | payments {user : UserId} {limit offset : Int} {ps : List Payment}
      (h : Wire.decode (List Payment) body = .ok ps) :
      Brings body (.payments user limit offset) (.answer (.payments ps))
  | requestPayment {user : UserId} {amount : Int} {method : PaymentMethod} {booking : Option BookingId}
      {p : Payment} (h : Wire.decode Payment body = .ok p) :
      Brings body (.requestPayment user amount method booking) (.answer (.payment p))
  | payment {id : PaymentId} {p : Payment} (h : Wire.decode Payment body = .ok p) :
      Brings body (.payment id) (.answer (.payment p))
  | checkout {id : PaymentId} {checkout : Checkout} (h : Wire.decode Checkout body = .ok checkout) :
      Brings body (.checkout id) (.answer (.checkout checkout))
  | refund {id : PaymentId} {p : Payment} (h : Wire.decode Payment body = .ok p) :
      Brings body (.refund id) (.answer (.payment p))
  | sendVerdict {provider : PaymentMethod} {verdict : Verdict} {a : Acknowledgement}
      (h : Wire.decode Acknowledgement body = .ok a) :
      Brings body (.sendVerdict provider verdict) (.acknowledgement a)

theorem readAs_eq_ok {α : Type} [Wire α] {view : α → Reply} :
    readAs α view body = .ok reply ↔ ∃ a, Wire.decode α body = .ok a ∧ view a = reply := by
  unfold readAs
  cases Wire.decode α body <;> simp

/-- A call other than for health is granted exactly if the body brings what it is to bring. -/
theorem readGranted_eq_ok (hc : c ≠ .health) : c.readGranted body = .ok reply ↔ Brings body c reply := by
  constructor
  · intro h
    cases c with
    | health => exact absurd rfl hc
    | wallet =>
        obtain ⟨w, hw, rfl⟩ := readAs_eq_ok.1 h
        exact .wallet hw
    | balance =>
        obtain ⟨report, hreport, rfl⟩ := readAs_eq_ok.1 h
        exact .balance hreport
    | deposit =>
        obtain ⟨e, he, rfl⟩ := readAs_eq_ok.1 h
        exact .deposit he
    | withdraw =>
        obtain ⟨e, he, rfl⟩ := readAs_eq_ok.1 h
        exact .withdraw he
    | history =>
        obtain ⟨es, hes, rfl⟩ := readAs_eq_ok.1 h
        exact .history hes
    | payments =>
        obtain ⟨ps, hps, rfl⟩ := readAs_eq_ok.1 h
        exact .payments hps
    | requestPayment =>
        obtain ⟨p, hp, rfl⟩ := readAs_eq_ok.1 h
        exact .requestPayment hp
    | payment =>
        obtain ⟨p, hp, rfl⟩ := readAs_eq_ok.1 h
        exact .payment hp
    | checkout =>
        obtain ⟨checkout, hcheckout, rfl⟩ := readAs_eq_ok.1 h
        exact .checkout hcheckout
    | refund =>
        obtain ⟨p, hp, rfl⟩ := readAs_eq_ok.1 h
        exact .refund hp
    | sendVerdict =>
        obtain ⟨a, ha, rfl⟩ := readAs_eq_ok.1 h
        exact .sendVerdict ha
  · intro h
    cases h <;> exact readAs_eq_ok.2 ⟨_, ‹_›, rfl⟩

theorem read_eq_ok (hc : c ≠ .health) :
    c.read status body = .ok reply ↔ (200 ≤ status ∧ status < 300) ∧ Brings body c reply := by
  rw [read]
  split_ifs with hstatus
  · rw [readGranted_eq_ok hc, and_iff_right hstatus]
  · simp [hstatus]

theorem read_health : Call.health.read status body = .ok (.health (200 ≤ status ∧ status < 300)) := by
  rw [read]
  by_cases hstatus : 200 ≤ status ∧ status < 300
  · rw [if_pos hstatus, decide_eq_true hstatus]
    rfl
  · rw [if_neg hstatus, if_pos rfl, decide_eq_false hstatus]

end Call

/-! ## What is printed -/

/-- A text is read as a reply: a balance as the numeral on a line, and everything else as JSON. -/
inductive Reply.Told (text : String) : Reply → Prop
  | wallet {w : Wallet} (h : Wire.decode Wallet text = .ok w) : Told text (.answer (.wallet w))
  | balance {numeral : String} {n : Int} (line : text = numeral ++ "\n")
      (h : Numeral.word? numeral.toList = some n) : Told text (.answer (.balance n))
  | entry {e : Entry} (h : Wire.decode Entry text = .ok e) : Told text (.answer (.entry e))
  | entries {es : List Entry} (h : Wire.decode (List Entry) text = .ok es) :
      Told text (.answer (.entries es))
  | payment {p : Payment} (h : Wire.decode Payment text = .ok p) : Told text (.answer (.payment p))
  | payments {ps : List Payment} (h : Wire.decode (List Payment) text = .ok ps) :
      Told text (.answer (.payments ps))
  | checkout {c : Checkout} (h : Wire.decode Checkout text = .ok c) : Told text (.answer (.checkout c))
  | acknowledgement {a : Acknowledgement} (h : Wire.decode Acknowledgement text = .ok a) :
      Told text (.acknowledgement a)

theorem Wallet.isWord_of_decode {text : String} {w : Wallet} (h : Wire.decode Wallet text = .ok w) :
    Numeral.isWord w.balance := by
  obtain ⟨values, hvalues, rfl⟩ := Record.exists_of_decode h
  exact Json.isWord_of_required hvalues.2.2.1

theorem BalanceReport.isWord_of_decode {text : String} {report : BalanceReport}
    (h : Wire.decode BalanceReport text = .ok report) : Numeral.isWord report.balance := by
  obtain ⟨values, hvalues, rfl⟩ := Record.exists_of_decode h
  exact Json.isWord_of_required hvalues.2.1

section Records
variable {α : Type} [Record α] [Record.Judged α] [Record.IsFlat α]

theorem Wire.decode_wide {a : α} (h : Wire.RoundTrips a) :
    Wire.decode α ((Wire.write a).renderWide ++ "\n") = .ok a :=
  Wire.decode_renderWide (Record.shows_wide h 0)

theorem Wire.decode_wide_list {as : List α} (h : ∀ a ∈ as, Wire.RoundTrips a) :
    Wire.decode (List α) ((Wire.write as).renderWide ++ "\n") = .ok as :=
  Wire.decode_renderWide (Json.shows_wide_list fun a ha => Record.shows_wide (h a ha) 1)

end Records

namespace CommandLine

/-- What is printed for a reply that the server's answer brings is read as that reply. -/
theorem told_conclude {c : Call} {body : String} {reply : Reply} (h : Call.Brings body c reply) :
    reply.Told (conclude (.ok reply)).output := by
  cases h with
  | wallet h => exact .wallet (Wire.decode_wide (Wallet.kept (Wallet.isWord_of_decode h)).roundTrips)
  | @balance _ report h =>
      have hnumeral : Numeral.word? (Numeral.ofInt report.balance).toList = some report.balance := by
        rw [Numeral.ofInt, String.toList_ofList]
        exact Numeral.word?_signed (BalanceReport.isWord_of_decode h)
      exact .balance rfl hnumeral
  | deposit | withdraw => exact .entry (Wire.decode_wide (Entry.kept _).roundTrips)
  | history => exact .entries (Wire.decode_wide_list fun e _ => e.kept.roundTrips)
  | payments => exact .payments (Wire.decode_wide_list fun p _ => p.kept.roundTrips)
  | requestPayment | payment | refund => exact .payment (Wire.decode_wide (Payment.kept _).roundTrips)
  | checkout => exact .checkout (Wire.decode_wide (Checkout.kept _).roundTrips)
  | sendVerdict => exact .acknowledgement (Wire.decode_wide (Acknowledgement.kept _).roundTrips)

theorem conclude_code {c : Call} {body : String} {reply : Reply} (h : Call.Brings body c reply) :
    (conclude (.ok reply)).code = 0 := by
  cases h <;> rfl

theorem failure_eq (text : String) : (failure text).code = 1 ∧ (failure text).output = "" := ⟨rfl, rfl⟩

theorem conclude_error (error : ClientError) :
    (conclude (.error error)).code = 1 ∧ (conclude (.error error)).output = "" := by
  rw [conclude, failedCall]
  cases error.cause? <;> exact failure_eq _

/-! ## Arguments -/

/-- The call that a command asks for, if all of its arguments name what they should. The name of a method
may be in any letter case, and only a gateway sends verdicts. -/
inductive Command.Asks : Command → Call → Prop
  | health : Asks .health .health
  | wallet {user : String} {id : UserId} (h : UserId.ofText? user = some id) :
      Asks (.wallet user) (.wallet id)
  | balance {user : String} {id : UserId} (h : UserId.ofText? user = some id) :
      Asks (.balance user) (.balance id)
  | deposit {user : String} {amount : Int} {description : Option String} {id : UserId}
      (h : UserId.ofText? user = some id) :
      Asks (.deposit user amount description) (.deposit id amount description)
  | withdraw {user : String} {amount : Int} {description : Option String} {id : UserId}
      (h : UserId.ofText? user = some id) :
      Asks (.withdraw user amount description) (.withdraw id amount description)
  | history {user : String} {limit offset : Int} {id : UserId} (h : UserId.ofText? user = some id) :
      Asks (.history user limit offset) (.history id limit offset)
  | requestPayment {user : String} {amount : Int} {method : String} {booking : Option String} {id : UserId}
      {m : PaymentMethod} {b : Option BookingId} (h : UserId.ofText? user = some id)
      (hmethod : method.map Char.toLower = m.name)
      (hbooking : Option.Rel (fun text id => BookingId.ofText? text = some id) booking b) :
      Asks (.requestPayment user amount method booking) (.requestPayment id amount m b)
  | payment {text : String} {id : PaymentId} (h : PaymentId.ofText? text = some id) :
      Asks (.payment text) (.payment id)
  | payments {user : String} {limit offset : Int} {id : UserId} (h : UserId.ofText? user = some id) :
      Asks (.payments user limit offset) (.payments id limit offset)
  | checkout {text : String} {id : PaymentId} (h : PaymentId.ofText? text = some id) :
      Asks (.checkout text) (.checkout id)
  | refund {text : String} {id : PaymentId} (h : PaymentId.ofText? text = some id) :
      Asks (.refund text) (.refund id)
  | sendVerdict {provider externalId : String} {declined : Bool} {m : PaymentMethod}
      (hmethod : provider.map Char.toLower = m.name) (hexternal : m ≠ .wallet) :
      Asks (.sendVerdict provider externalId declined) (.sendVerdict m ⟨externalId, !declined⟩)

theorem readNamed_eq_ok {α : Type} {ofText? : String → Option α} {what text : String} {a : α} :
    readNamed ofText? what text = .ok a ↔ ofText? text = some a := by
  unfold readNamed
  cases ofText? text <;> simp

theorem readBooking?_eq_ok {booking : Option String} {b : Option BookingId} :
    readBooking? booking = .ok b ↔
      Option.Rel (fun text id => BookingId.ofText? text = some id) booking b := by
  cases booking with
  | none => cases b <;> simp [readBooking?]
  | some text =>
      cases hread : BookingId.ofText? text <;> cases b <;>
        simp [readBooking?, readBooking, readNamed, hread, Except.map]

theorem readMethod_eq_ok {text : String} {m : PaymentMethod} :
    readMethod text = .ok m ↔ text.map Char.toLower = m.name := by
  have hname : PaymentMethod.ofName? (text.map Char.toLower) = some m ↔
      text.map Char.toLower = m.name :=
    ⟨fun h => (PaymentMethod.name_of_ofName? h).symm, fun h => h ▸ m.ofName?_name⟩
  rw [← hname, readMethod]
  cases PaymentMethod.ofName? (text.map Char.toLower) <;> simp

theorem readProvider_eq_ok {text : String} {m : PaymentMethod} :
    readProvider text = .ok m ↔ text.map Char.toLower = m.name ∧ m ≠ .wallet := by
  have hexternal (m : PaymentMethod) : m.isExternal = true ↔ m ≠ .wallet := by cases m <;> decide
  rw [readProvider, Json.bind_eq_ok, ← readMethod_eq_ok]
  constructor
  · rintro ⟨m', hmethod, h⟩
    split_ifs at h with hm
    cases h
    exact ⟨hmethod, (hexternal m).1 hm⟩
  · rintro ⟨hmethod, hm⟩
    exact ⟨m, hmethod, if_pos ((hexternal m).2 hm)⟩

variable {command : Command} {call : Call}

/-- A command makes the call that it asks for. -/
theorem Command.call_eq_ok : command.call = .ok call ↔ command.Asks call := by
  constructor
  · intro h
    cases command with
    | health =>
        cases h
        exact .health
    | wallet | balance | deposit | withdraw | history | payments | payment | checkout | refund =>
        obtain ⟨id, hid, h⟩ := Json.bind_eq_ok.1 h
        cases h
        constructor
        exact readNamed_eq_ok.1 hid
    | requestPayment =>
        obtain ⟨b, hb, h⟩ := Json.bind_eq_ok.1 h
        obtain ⟨id, hid, h⟩ := Json.bind_eq_ok.1 h
        obtain ⟨m, hm, h⟩ := Json.bind_eq_ok.1 h
        cases h
        exact .requestPayment (readNamed_eq_ok.1 hid) (readMethod_eq_ok.1 hm) (readBooking?_eq_ok.1 hb)
    | sendVerdict =>
        obtain ⟨m, hm, h⟩ := Json.bind_eq_ok.1 h
        cases h
        obtain ⟨hmethod, hexternal⟩ := readProvider_eq_ok.1 hm
        exact .sendVerdict hmethod hexternal
  · intro h
    cases h with
    | health => rfl
    | wallet h | balance h | deposit h | withdraw h | history h | payments h | payment h | checkout h
      | refund h => exact Json.bind_eq_ok.2 ⟨_, readNamed_eq_ok.2 h, rfl⟩
    | requestPayment h hmethod hbooking =>
        refine Json.bind_eq_ok.2 ⟨_, readBooking?_eq_ok.2 hbooking, ?_⟩
        refine Json.bind_eq_ok.2 ⟨_, readNamed_eq_ok.2 h, ?_⟩
        exact Json.bind_eq_ok.2 ⟨_, readMethod_eq_ok.2 hmethod, rfl⟩
    | sendVerdict hmethod hexternal =>
        exact Json.bind_eq_ok.2 ⟨_, readProvider_eq_ok.2 ⟨hmethod, hexternal⟩, rfl⟩

/-! ## Runs -/

/-- A server that gives every request the same answer, and keeps the requests in their order. -/
def answering (status : Nat) (body : String) (request : Http.Request) :
    StateM (List Http.Request) (Nat × String) := do
  modify (· ++ [request])
  return (status, body)

variable {status : Nat} {body usual : String} {args : List String} {line : Line}

/-- A call sends its one request. -/
theorem perform_answering (call : Call) (base : String) (sent : List Http.Request) :
    (call.perform (answering status body) base).run sent =
      (call.read status body, sent ++ [call.request base]) := rfl

theorem run_asks (hline : readLine args = .ok line) (hasks : line.command.Asks call)
    (sent : List Http.Request) : (run (answering status body) usual args).run sent =
      (conclude (call.read status body), sent ++ [call.request (line.server.getD usual)]) := by
  have hplan : plan args = .call line.server call := by
    simp only [plan, hline, Command.call_eq_ok.2 hasks]
  rw [run, hplan]
  rfl

theorem run_asks_nothing (hline : readLine args = .ok line) (hasks : ∀ call, ¬line.command.Asks call)
    (sent : List Http.Request) :
    ∃ text, (run (answering status body) usual args).run sent = (failure text, sent) := by
  cases hcall : line.command.call with
  | ok call => exact absurd (Command.call_eq_ok.1 hcall) (hasks call)
  | error text =>
      have hplan : plan args = .finish (failure text) := by simp only [plan, hline, hcall]
      refine ⟨text, ?_⟩
      rw [run, hplan]
      rfl

/-- How a command ends whose call was answered. -/
structure Ends (call : Call) (status : Nat) (body : String) (outcome : Outcome) : Prop where
  succeeds : outcome.code = 0 ↔ (200 ≤ status ∧ status < 300) ∧ ∃ reply, Call.Brings body call reply
  told : outcome.code = 0 → ∃ reply, call.read status body = .ok reply ∧ reply.Told outcome.output
  fails : outcome.code ≠ 0 → outcome.code = 1 ∧ outcome.output = ""

theorem ends_conclude (hcall : call ≠ .health) (status : Nat) (body : String) :
    Ends call status body (conclude (call.read status body)) := by
  cases hread : call.read status body with
  | ok reply =>
      obtain ⟨hstatus, hbrings⟩ := (Call.read_eq_ok hcall).1 hread
      have hcode := conclude_code hbrings
      exact {
        succeeds := iff_of_true hcode ⟨hstatus, reply, hbrings⟩
        told := fun _ => ⟨reply, hread, told_conclude hbrings⟩
        fails := fun h => absurd hcode h }
  | error error =>
      obtain ⟨hcode, houtput⟩ := conclude_error error
      have hne : (conclude (.error error)).code ≠ 0 := by
        rw [hcode]
        decide
      have hrefused : ¬((200 ≤ status ∧ status < 300) ∧ ∃ reply, Call.Brings body call reply) := by
        rintro ⟨hstatus, reply, hbrings⟩
        rw [(Call.read_eq_ok hcall).2 ⟨hstatus, hbrings⟩] at hread
        cases hread
      exact {
        succeeds := iff_of_false hne hrefused
        told := fun h => absurd h hne
        fails := fun _ => ⟨hcode, houtput⟩ }

/-- What becomes of a line that is a command, and which requests are sent for it. -/
structure Fronts (usual : String) (line : Line) (status : Nat) (body : String)
    (ended : Outcome × List Http.Request) : Prop where
  /-- One request is sent, which is the one that the client sends for the call. -/
  asked {call : Call} : line.command.Asks call →
    (call.perform (answering status body) (line.server.getD usual)).run [] =
      (call.read status body, [call.request (line.server.getD usual)]) ∧
    ended.2 = [call.request (line.server.getD usual)]
  unasked : (∀ call, ¬line.command.Asks call) →
    ended.2 = [] ∧ ended.1.code = 1 ∧ ended.1.output = ""
  answered {call : Call} : line.command.Asks call → call ≠ .health → Ends call status body ended.1
  health : line.command = .health → (ended.1.code = 0 ↔ 200 ≤ status ∧ status < 300)

/-- Whatever a command is given and whatever the server answers, the command line does what the client
does, and does nothing if an argument names nothing. -/
theorem run_fronts (usual : String) {args : List String} {line : Line} (hline : readLine args = .ok line)
    (status : Nat) (body : String) :
    Fronts usual line status body ((run (answering status body) usual args).run []) where
  asked hasks := by
    rw [run_asks hline hasks]
    exact ⟨perform_answering _ _ [], rfl⟩
  unasked hasks := by
    obtain ⟨text, hrun⟩ := run_asks_nothing hline hasks []
    rw [hrun]
    exact ⟨rfl, failure_eq text⟩
  answered hasks hcall := by
    rw [run_asks hline hasks]
    exact ends_conclude hcall status body
  health hhealth := by
    have hasks : line.command.Asks .health := hhealth ▸ .health
    rw [run_asks hline hasks, Call.read_health]
    by_cases hstatus : 200 ≤ status ∧ status < 300
    · rw [decide_eq_true hstatus]
      exact iff_of_true rfl hstatus
    · rw [decide_eq_false hstatus]
      exact iff_of_false Nat.one_ne_zero hstatus

/-- A verdict of a gateway whose name is in capitals. -/
theorem fronts_declined_verdict :
    let args := ["simulate-callback", "--provider", "GATEWAY_B", "--external-id", "gb_1", "--declined"]
    let line : Line := ⟨none, .sendVerdict "GATEWAY_B" "gb_1" true⟩
    let body := "\x7b\"received\":true\x7d"
    readLine args = .ok line ∧ line.command.Asks (.sendVerdict .gatewayB ⟨"gb_1", false⟩) ∧
      Fronts "http://localhost:3000" line 200 body
        ((run (answering 200 body) "http://localhost:3000" args).run []) := by
  intro args line body
  have hline : readLine args = .ok line := by decide +kernel
  exact ⟨hline, .sendVerdict (by decide +kernel) (by decide), run_fronts _ hline 200 body⟩

end CommandLine
end Purse
