import ShellBridge.Network

/-!
Connections while the transport runs.

A connection reports its end last, and is closed then; nothing is run on a closed connection.
Running the transport, for however long, opens no connection: this is done by attempts to connect
only.
-/

namespace ShellBridge

/-- The report is the last one: the connection has ended. -/
def Report.isEnd : Report → Bool
  | .closed | .failed _ => true
  | .arrived _ _ | .acknowledged _ => false

namespace Connection

/-- A report of the end comes last, and the connection is closed then. -/
def Trace.EndsLast (trace : Trace) : Prop :=
  ∀ before report after, trace.reports = before ++ report :: after → report.isEnd = true →
    after = [] ∧ trace.connection.isOpen = false

namespace Trace.EndsLast

theorem of_silent (connection : Connection) (sent : List ClientPacket) :
    EndsLast ⟨connection, sent, []⟩ := by
  intro before report after split
  simp at split

theorem of_closed (connection : Connection) (sent : List ClientPacket) (report : Report) :
    EndsLast ⟨connection.close, sent, [report]⟩ := by
  intro before last after split ends
  refine ⟨?_, rfl⟩
  cases before with
  | nil => exact (List.cons.inj split).2.symm
  | cons first before => simp at split

/-- What comes before a trace, with a report that ends nothing. -/
theorem after {trace : Trace} (endsLast : trace.EndsLast) (sent : List ClientPacket)
    {report : Option Report} (goesOn : ∀ r ∈ report, r.isEnd = false) :
    (trace.after sent report).EndsLast := by
  cases report with
  | none => exact endsLast
  | some first =>
      intro before last after split ends
      cases before with
      | nil =>
          obtain ⟨rfl, -⟩ := List.cons.inj split
          rw [goesOn first rfl] at ends
          cases ends
      | cons head before =>
          obtain ⟨-, rest⟩ := List.cons.inj split
          exact endsLast before last after rest ends

end Trace.EndsLast

/-- A packet from the broker ends nothing. -/
theorem goesOn_of_receive {link : Link} {packet : BrokerPacket} {reaction : Link.Reaction}
    (received : link.receive packet = .ok reaction) : ∀ r ∈ reaction.report, r.isEnd = false := by
  intro r given
  cases packet with
  | publish id publication =>
      rw [Link.receive] at received
      split at received
      · cases received
      · cases received
        cases given
        rfl
  | acknowledged id =>
      cases received
      cases given
      rfl
  | subscribed | received | completed | pong =>
      cases received
      cases given

theorem endsLast_runFor (script : BrokerScript) (steps : Nat) (connection : Connection) :
    (connection.runFor script steps).EndsLast := by
  induction steps generalizing connection with
  | zero => exact .of_silent connection []
  | succ steps inductionHypothesis =>
      rw [runFor]
      dsimp only
      split
      · exact .of_closed _ _ _
      · apply Trace.EndsLast.after
        · split
          · exact .of_silent _ _
          · exact .of_closed _ _ _
          · split
            · exact .of_closed _ _ _
            · next reaction received =>
                exact (inductionHypothesis _).after _ (goesOn_of_receive received)
        · rintro r ⟨⟩

theorem endsLast_run (script : BrokerScript) (connection : Connection) :
    (connection.run script).EndsLast :=
  endsLast_runFor script connection.budget connection

end Connection

namespace Network

/-- How many connections were opened, in all and with each broker. -/
def openings (network : Network) : Nat × List Nat :=
  (network.connections.length, network.brokers.map Broker.accepted)

theorem openings_receiveAt (network : Network) (broker : Nat) (packets : List ClientPacket) :
    (network.receiveAt broker packets).openings = network.openings := by
  simp only [openings, receiveAt, changeBroker, Prod.mk.injEq, true_and]
  apply List.ext_getElem?
  intro place
  rw [List.getElem?_map, List.getElem?_map, List.getElem?_modify]
  cases network.brokers[place]? with
  | none => rfl
  | some broker' => by_cases same : broker = place <;> simp [same]

theorem openings_record (network : Network) (number : Nat) (trace : Connection.Trace) :
    (network.record number trace).1.openings = network.openings := by
  rw [record, openings_receiveAt]
  simp [openings, setConnection]

theorem openings_settleOne (network : Network) (number : Nat) :
    (network.settleOne number).1.openings = network.openings := by
  rw [settleOne]
  split
  · rfl
  · split
    · exact openings_record _ _ _
    · rfl

theorem settleOne_of_closed {network : Network} {number : Nat} {connection : Connection}
    (found : network.connections[number]? = some connection)
    (closed : connection.isOpen = false) : network.settleOne number = (network, []) := by
  simp [settleOne, found, closed]

theorem openings_settleAll (network : Network) (numbers : List Nat) :
    (network.settleAll numbers).1.openings = network.openings := by
  induction numbers generalizing network with
  | nil => rfl
  | cons number rest inductionHypothesis =>
      rw [settleAll]
      dsimp only
      rw [inductionHypothesis, openings_settleOne]

theorem openings_settle (network : Network) : network.settle.1.openings = network.openings :=
  openings_settleAll _ _

theorem openings_pingOne (network : Network) (number : Nat) :
    (network.pingOne number).1.openings = network.openings := by
  rw [pingOne]
  split
  · rfl
  · dsimp only
    rw [openings_settleOne, openings_record]

theorem openings_advanceFor (limit pings : Nat) (network : Network) :
    (advanceFor limit pings network).1.openings = network.openings := by
  induction pings generalizing network with
  | zero => rfl
  | succ pings inductionHypothesis =>
      rw [advanceFor]
      split
      · rfl
      · dsimp only
        rw [inductionHypothesis, openings_pingOne]
        rfl

/-- However long the transport runs, it opens no connection. -/
theorem openings_wait (network : Network) (millis : Nat) :
    (network.wait millis).1.openings = network.openings := by
  rw [wait]
  dsimp only
  rw [openings_advanceFor, openings_settle]

end Network

end ShellBridge
