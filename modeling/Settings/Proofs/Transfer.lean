import Settings.Transfer

/-!
Repeated sends of one buffer to a channel that takes it in pieces.

What a send does is told by its polls: each offers what the polls before it have left of the
buffer, until nothing is left or a poll ends the send with an error (`Attempt.Faithful`).  One
poll in front of a faithful attempt at the rest of the buffer makes a faithful attempt at the
buffer (`Faithful.cons`), so a send is faithful by induction on the answers of the channel, and
repeated sends are so one after the other.
-/

namespace Settings.Transfer

variable {ε : Type}

/-- An offer, and how the channel answered it. -/
structure Poll (ε : Type) where
  offer : List UInt8
  answer : Answer ε
deriving Repr, DecidableEq

namespace Poll

/-- The bytes of the offer that the channel took. -/
def taken (poll : Poll ε) : List UInt8 :=
  match poll.answer with
  | .takes count => poll.offer.take count
  | _ => []

/-- The error with which the poll ends the send: that of the channel, or that it took nothing. -/
def fault? (poll : Poll ε) : Option (Fault ε) :=
  match poll.answer with
  | .takes 0 => some .nothingTaken
  | .fails error => some (.channel error)
  | _ => none

theorem taken_of_fault? {poll : Poll ε} {fault : Fault ε} (fails : poll.fault? = some fault) :
    poll.taken = [] := by
  unfold fault? at fails
  unfold taken
  split at fails
  · next answer =>
      rw [answer]
      rfl
  · next error answer => rw [answer]
  · cases fails

end Poll

/-- The bytes that the channel took in polls. -/
def delivered (polls : List (Poll ε)) : List UInt8 := polls.flatMap Poll.taken

theorem delivered_append (polls more : List (Poll ε)) :
    delivered (polls ++ more) = delivered polls ++ delivered more :=
  List.flatMap_append

theorem delivered_cons (poll : Poll ε) (polls : List (Poll ε)) :
    delivered (poll :: polls) = poll.taken ++ delivered polls :=
  List.flatMap_cons

/-! ### The channel -/

/-- Polls of a channel, and the channel after them: it answers by its script as far as that
reaches, and then takes whole offers. -/
structure Serves (before : Channel ε) (polls : List (Poll ε)) (after : Channel ε) : Prop where
  answers : ∀ (i : Nat) (poll : Poll ε), polls[i]? = some poll →
    poll.answer = before.script[i]?.getD (.takes poll.offer.length)
  script : after.script = before.script.drop polls.length
  received : after.received = before.received ++ delivered polls
  offers : after.offers = (polls.map Poll.offer).reverse ++ before.offers

namespace Serves

variable {before middle after : Channel ε} {polls more : List (Poll ε)}

theorem nil (channel : Channel ε) : Serves channel [] channel where
  answers i poll listed := by cases listed
  script := rfl
  received := (List.append_nil _).symm
  offers := rfl

/-- One poll, of which the channel keeps account. -/
theorem singleton {script : List (Answer ε)} {offer : List UInt8} {answer : Answer ε}
    (answers : answer = script.head?.getD (.takes offer.length)) (received : List UInt8)
    (offers : List (List UInt8)) :
    Serves ⟨script, received, offers⟩ [⟨offer, answer⟩]
      ⟨script.tail, received ++ Poll.taken ⟨offer, answer⟩, offer :: offers⟩ where
  answers i poll listed := by
    cases i with
    | zero =>
        cases listed
        rw [answers, List.head?_eq_getElem?]
    | succ i => cases listed
  script := List.drop_one.symm
  received := by rw [delivered_cons, delivered, List.flatMap_nil, List.append_nil]
  offers := rfl

theorem append (first : Serves before polls middle) (second : Serves middle more after) :
    Serves before (polls ++ more) after where
  answers i poll listed := by
    by_cases early : i < polls.length
    · rw [List.getElem?_append_left early] at listed
      exact first.answers i poll listed
    · have late : polls.length ≤ i := Nat.not_lt.1 early
      rw [List.getElem?_append_right late] at listed
      have answered := second.answers _ poll listed
      rwa [first.script, List.getElem?_drop, Nat.add_sub_cancel' late] at answered
  script := by
    rw [second.script, first.script, List.drop_drop, List.length_append]
  received := by
    rw [second.received, first.received, delivered_append, List.append_assoc]
  offers := by
    rw [second.offers, first.offers, List.map_append, List.reverse_append, List.append_assoc]

end Serves

/-! ### One send -/

/-- A send: its polls in order, and how it ended. -/
structure Attempt (ε : Type) where
  polls : List (Poll ε)
  outcome : Except (Fault ε) Unit

/-- The bytes that the channel took of a send. -/
def Attempt.delivered (attempt : Attempt ε) : List UInt8 := Transfer.delivered attempt.polls

/-- What a send of a buffer does, whatever the channel answers.  Every poll offers just what is
left of the buffer, which is not nothing; so of an empty buffer there are no polls.  The bytes
delivered are the first of the buffer, and all of them just if the send succeeds.  It fails just
if its last poll is at fault, with the error of that poll, and polls no more after a fault. -/
structure Attempt.Faithful (buffer : List UInt8) (attempt : Attempt ε) : Prop where
  offers : ∀ before poll after, attempt.polls = before ++ poll :: after →
    Transfer.delivered before ++ poll.offer = buffer ∧ poll.offer ≠ []
  silent_iff : attempt.polls = [] ↔ buffer = []
  isPrefix : attempt.delivered <+: buffer
  ok_iff : attempt.outcome = .ok () ↔ attempt.delivered = buffer
  error_iff : ∀ fault, attempt.outcome = .error fault ↔
    ∃ last, attempt.polls.getLast? = some last ∧ last.fault? = some fault
  stops : ∀ before poll after, attempt.polls = before ++ poll :: after → after ≠ [] →
    poll.fault? = none

namespace Attempt.Faithful

/-- Nothing is polled for an empty buffer. -/
theorem nil : Faithful [] (⟨[], .ok ()⟩ : Attempt ε) where
  offers before poll after split := by simp at split
  silent_iff := iff_of_true rfl rfl
  isPrefix := List.prefix_refl []
  ok_iff := iff_of_true rfl rfl
  error_iff fault := iff_of_false (by rintro ⟨⟩) (by rintro ⟨last, ⟨⟩, -⟩)
  stops before poll after split := by simp at split

/-- A poll at fault delivers nothing and ends the send. -/
theorem fault {poll : Poll ε} {fault : Fault ε} (nonempty : poll.offer ≠ [])
    (fails : poll.fault? = some fault) : Faithful poll.offer ⟨[poll], .error fault⟩ := by
  have nothing : Attempt.delivered (⟨[poll], .error fault⟩ : Attempt ε) = [] := by
    rw [Attempt.delivered, delivered_cons, Poll.taken_of_fault? fails]
    rfl
  have alone : ∀ {before : List (Poll ε)} {other : Poll ε} {after : List (Poll ε)},
      [poll] = before ++ other :: after → before = [] ∧ other = poll ∧ after = [] := by
    intro before other after split
    rcases List.singleton_eq_append_iff.1 split with ⟨front, back⟩ | ⟨-, back⟩
    · cases back
      exact ⟨front, rfl, rfl⟩
    · cases back
  exact {
    offers := by
      intro before other after split
      obtain ⟨rfl, rfl, -⟩ := alone split
      exact ⟨rfl, nonempty⟩
    silent_iff := iff_of_false (by rintro ⟨⟩) nonempty
    isPrefix := by
      rw [nothing]
      exact List.nil_prefix
    ok_iff := by
      rw [nothing]
      exact iff_of_false (by rintro ⟨⟩) nonempty.symm
    error_iff := by
      intro other
      constructor
      · rintro ⟨⟩
        exact ⟨poll, rfl, fails⟩
      · rintro ⟨last, sole, failsToo⟩
        rw [List.getLast?_singleton] at sole
        cases sole
        rw [fails] at failsToo
        cases failsToo
        rfl
    stops := by
      intro before other after split more
      exact absurd (alone split).2.2 more }

/-- A poll that is not at fault is followed by an attempt at what it left. -/
theorem cons {poll : Poll ε} {left : List UInt8} {attempt : Attempt ε}
    (nonempty : poll.offer ≠ []) (goesOn : poll.fault? = none)
    (whole : poll.taken ++ left = poll.offer) (rest : attempt.Faithful left) :
    Faithful poll.offer ⟨poll :: attempt.polls, attempt.outcome⟩ := by
  have delivers : Attempt.delivered ⟨poll :: attempt.polls, attempt.outcome⟩ =
      poll.taken ++ attempt.delivered := delivered_cons ..
  exact {
    offers := by
      intro before other after split
      rcases List.cons_eq_append_iff.1 split with ⟨rfl, back⟩ | ⟨before, rfl, back⟩
      · cases back
        exact ⟨rfl, nonempty⟩
      · obtain ⟨offered, some⟩ := rest.offers _ _ _ back
        rw [delivered_cons, List.append_assoc, offered, whole]
        exact ⟨rfl, some⟩
    silent_iff := iff_of_false (by rintro ⟨⟩) nonempty
    isPrefix := by
      rw [delivers, ← whole]
      exact (List.prefix_append_right_inj _).2 rest.isPrefix
    ok_iff := by
      rw [delivers, ← whole, List.append_cancel_left_eq]
      exact rest.ok_iff
    error_iff := by
      intro fault
      rw [rest.error_iff]
      cases attempt.polls with
      | nil =>
          refine iff_of_false (by rintro ⟨last, ⟨⟩, -⟩) ?_
          rintro ⟨last, sole, fails⟩
          rw [List.getLast?_singleton] at sole
          cases sole
          rw [goesOn] at fails
          cases fails
      | cons next polls => rw [List.getLast?_cons_cons]
    stops := by
      intro before other after split more
      rcases List.cons_eq_append_iff.1 split with ⟨rfl, back⟩ | ⟨before, rfl, back⟩
      · cases back
        exact goesOn
      · exact rest.stops _ _ _ back more }

end Attempt.Faithful

/-- The outcome of a send of the buffer and the channel after it, as a faithful attempt has
them. -/
def Sends (buffer : List UInt8) (before : Channel ε) (sent : Except (Fault ε) Unit × Channel ε) :
    Prop :=
  ∃ attempt : Attempt ε, attempt.Faithful buffer ∧ sent.1 = attempt.outcome ∧
    Serves before attempt.polls sent.2

section

variable {offer left : List UInt8} {answer : Answer ε} {script : List (Answer ε)}
  {received : List UInt8} {offers : List (List UInt8)}

theorem Sends.fault {fault : Fault ε} (nonempty : offer ≠ [])
    (answers : answer = script.head?.getD (.takes offer.length))
    (fails : Poll.fault? ⟨offer, answer⟩ = some fault) :
    Sends offer ⟨script, received, offers⟩
      (.error fault, ⟨script.tail, received ++ Poll.taken ⟨offer, answer⟩, offer :: offers⟩) :=
  ⟨_, .fault nonempty fails, rfl, .singleton answers received offers⟩

/-- One poll, and a send of what it left. -/
theorem Sends.cons {sent : Except (Fault ε) Unit × Channel ε} (nonempty : offer ≠ [])
    (answers : answer = script.head?.getD (.takes offer.length))
    (goesOn : Poll.fault? ⟨offer, answer⟩ = none)
    (whole : Poll.taken ⟨offer, answer⟩ ++ left = offer)
    (rest : Sends left
      ⟨script.tail, received ++ Poll.taken ⟨offer, answer⟩, offer :: offers⟩ sent) :
    Sends offer ⟨script, received, offers⟩ sent := by
  obtain ⟨attempt, faithful, outcome, serves⟩ := rest
  exact ⟨_, .cons nonempty goesOn whole faithful, outcome,
    (Serves.singleton answers received offers).append serves⟩

end

/-- A send meets the answers of the channel one after the other. -/
theorem sends_deliver (channel : Channel ε) (buffer : List UInt8) (script : List (Answer ε)) :
    Sends buffer { channel with script := script } (deliver channel buffer script) := by
  induction script generalizing channel buffer with
  | nil =>
      cases buffer with
      | nil => exact ⟨_, .nil, rfl, .nil _⟩
      | cons byte bytes =>
          -- The script is at its end, so the channel takes the whole offer.
          have takes : Poll.taken (⟨byte :: bytes, .takes (byte :: bytes).length⟩ : Poll ε) =
              byte :: bytes := List.take_length
          have rest : Sends [] ⟨[], channel.received ++
                Poll.taken (⟨byte :: bytes, .takes (byte :: bytes).length⟩ : Poll ε),
              (byte :: bytes) :: channel.offers⟩ (deliver channel (byte :: bytes) []) := by
            rw [takes]
            exact ⟨_, .nil, rfl, .nil _⟩
          exact .cons (List.cons_ne_nil byte bytes) rfl rfl ((List.append_nil _).trans takes) rest
  | cons answer rest ih =>
      cases buffer with
      | nil => exact ⟨_, .nil, rfl, .nil _⟩
      | cons byte bytes =>
          have nonempty := List.cons_ne_nil byte bytes
          cases answer with
          | takes count =>
              cases count with
              | zero => exact .fault nonempty rfl rfl
              | succ count => exact .cons nonempty rfl rfl (List.take_append_drop ..) (ih ..)
          | later => exact .cons nonempty rfl rfl (List.nil_append _) (ih ..)
          | interrupted => exact .cons nonempty rfl rfl (List.nil_append _) (ih ..)
          | fails error => exact .fault nonempty rfl rfl

/-! ### Repeated sends -/

/-- A buffer is sent again and again from its beginning, whatever became of the sends before.
The channel has received the bytes of the attempts one after the other; each attempt delivers an
initial part of the buffer, and the whole of it just if it succeeds. -/
theorem sendTimes_faithful (buffer : List UInt8) (times : Nat) (channel : Channel ε) :
    ∃ attempts : List (Attempt ε), attempts.length = times ∧
      (∀ attempt ∈ attempts, attempt.Faithful buffer) ∧
      (sendTimes buffer times channel).map Prod.fst = attempts.map Attempt.outcome ∧
      ∀ i sent, (sendTimes buffer times channel)[i]? = some sent →
        Serves channel ((attempts.take (i + 1)).flatMap Attempt.polls) sent.2 ∧
          sent.2.received =
            channel.received ++ (attempts.take (i + 1)).flatMap Attempt.delivered := by
  induction times generalizing channel with
  | zero => exact ⟨[], rfl, by simp, rfl, fun i sent reached => by cases reached⟩
  | succ times ih =>
      obtain ⟨first, faithful, outcome, serves⟩ := sends_deliver channel buffer channel.script
      obtain ⟨others, count, faithfulToo, outcomes, ends⟩ := ih (send buffer channel).2
      refine ⟨first :: others, congrArg (· + 1) count, ?_, ?_, ?_⟩
      · exact List.forall_mem_cons.2 ⟨faithful, faithfulToo⟩
      · exact List.cons_eq_cons.2 ⟨outcome, outcomes⟩
      · intro i sent reached
        cases i with
        | zero =>
            cases reached
            rw [List.take_succ_cons, List.take_zero, List.flatMap_singleton,
              List.flatMap_singleton]
            exact ⟨serves, serves.received⟩
        | succ i =>
            obtain ⟨servesToo, received⟩ := ends i sent reached
            rw [List.take_succ_cons, List.flatMap_cons, List.flatMap_cons, ← List.append_assoc]
            refine ⟨serves.append servesToo, ?_⟩
            rw [received, send, serves.received]
            rfl

/-- A send that fails midway, and one that begins again. -/
example : (sendTimes [1, 2] 2 (.ofScript [.takes 1, .interrupted, .fails ()])).map
    (fun sent => sent.2.received) = [[1], [1, 1, 2]] := by decide

end Settings.Transfer
