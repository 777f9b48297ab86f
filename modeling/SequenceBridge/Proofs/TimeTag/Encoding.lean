import SequenceBridge.Proofs.Duration.Written

/-! # Time tags in writing
A relative time in the full form is written as the duration it denotes, one in the simple form as the
balanced duration. Either way the writing carries the sign and the size of the time, and it is read back
unless there are too many days for either form. A command has no time in FPrime's writing exactly when
its first time tag is missing, holds neither an absolute nor a relative time, or holds one that cannot be
read.

* **`TimeTag.relativeDuration?_keeps`** — the duration of a relative time has the sign and the size of
  the one that is read; **`TimeTag.relativeDuration?_eq_none_iff`** — there is none exactly when none
  is read.
* **`TimeTag.encode?_read_back_iff`** — the relative time tag of a command is read back exactly when it
  has at most 999 days.
* **`TimeTag.encode?_of_relative`** — how a relative time is written, form by form, and what the writing
  carries.
* **`Node.TimeUnreadable`**, **`Node.TimeUnparseable`**, **`Command.TimeUnknown`** — what a time tag and
  a command are at fault of when they have no time.
* **`TimeTag.encode?_eq_none_iff`** — a command has no time exactly when it is at fault.
-/

namespace SequenceBridge

namespace TimeTag

/-! ## The duration of a relative time -/

/-- In the **full form** the components stay as they are written. -/
theorem relativeDuration?_of_isFull {body : Text} {d : Duration}
    (hfull : Duration.isFull body = true) (hread : Duration.parse body = .ok d) :
    relativeDuration? body = some d := by
  rw [relativeDuration?, if_pos hfull, hread]
  rfl

/-- In the **simple form** they are balanced. -/
theorem relativeDuration?_of_isSimple {body : Text} {d : Duration}
    (hsimple : Duration.isSimple body = true) (hread : Duration.parse body = .ok d) :
    relativeDuration? body = some d.balance := by
  have hfull := Duration.isFull_eq_false_of_isSimple hsimple
  rw [relativeDuration?, hfull, if_neg Bool.false_ne_true, if_pos hsimple, hread]
  rfl

/-- **The sign and the size** of a relative time are those of the duration that is read from it. -/
theorem relativeDuration?_keeps {body : Text} {e : Duration} (hread : Duration.parse body = .ok e) :
    ∃ d, relativeDuration? body = some d ∧ d.isNegative = e.isNegative ∧
      d.totalMilliseconds = e.totalMilliseconds := by
  rcases Duration.isFull_or_isSimple_of_parse hread with hfull | hsimple
  · exact ⟨e, relativeDuration?_of_isFull hfull hread, rfl, rfl⟩
  · exact ⟨e.balance, relativeDuration?_of_isSimple hsimple hread, Duration.isNegative_balance e,
      Duration.totalMilliseconds_balance_of_parse hread⟩

/-- A relative time **has no duration** exactly when none can be read from it. -/
theorem relativeDuration?_eq_none_iff {body : Text} :
    relativeDuration? body = none ↔ ∀ d, Duration.parse body ≠ .ok d := by
  constructor
  · intro hnone d hread
    obtain ⟨e, he, -⟩ := relativeDuration?_keeps hread
    rw [hnone] at he
    exact nomatch he
  · intro hread
    have hnone : (Duration.parse body).toOption = none := by
      cases h : Duration.parse body with
      | error e => rfl
      | ok d => exact absurd h (hread d)
    rw [relativeDuration?, hnone, Option.map_none, ite_self, ite_self]

/-! ## The form of a time tag -/

/-- The tag of a command that holds an **absolute time** is its body. -/
theorem ofCommand?_of_absolute {c : Command} {source : Text} {tag n : Node}
    (htag : c.timeTag? = some tag) (habsolute : tag.child? .timeAbsolute = some n) :
    ofCommand? c source = (body? n source).map absolute := by
  have hform : TimeForm.ofTag? tag = some (.absolute n) := by
    rw [TimeForm.ofTag?, habsolute]
    rfl
  rw [ofCommand?, htag, Option.bind_eq_bind, Option.bind_some, hform, Option.bind_eq_bind,
    Option.bind_some]

/-- The tag of a command that holds a **relative time** is the duration of its body. -/
theorem ofCommand?_of_relative {c : Command} {source : Text} {tag n : Node}
    (htag : c.timeTag? = some tag) (hform : TimeForm.ofTag? tag = some (.relative n)) :
    ofCommand? c source = ((body? n source).bind relativeDuration?).map relative := by
  rw [ofCommand?, htag, Option.bind_eq_bind, Option.bind_some, hform, Option.bind_eq_bind,
    Option.bind_some]

/-- A relative time counts when there is no absolute one beside it. -/
theorem ofTag?_of_relative {tag n : Node} (habsolute : tag.child? .timeAbsolute = none)
    (hrelative : tag.child? .timeRelative = some n) :
    TimeForm.ofTag? tag = some (.relative n) := by
  rw [TimeForm.ofTag?, habsolute, hrelative]
  rfl

/-- A tag that holds **neither** gives no time, whatever else it holds. -/
theorem ofCommand?_of_neither {c : Command} {source : Text} {tag : Node}
    (htag : c.timeTag? = some tag) (habsolute : tag.child? .timeAbsolute = none)
    (hrelative : tag.child? .timeRelative = none) : ofCommand? c source = none := by
  rw [ofCommand?, htag, Option.bind_eq_bind, Option.bind_some, TimeForm.ofTag?, habsolute,
    hrelative]
  cases tag.child? .timeComplete with
  | some n => rfl
  | none => cases tag.child? .timeEpoch <;> rfl

/-! ## Relative times read back -/

/-- A command's **relative time tag is read back** from FPrime's writing exactly when it has at most
999 days. With more, the writing has neither form. -/
theorem encode?_read_back_iff {c : Command} {source : Text} {d : Duration}
    (h : ofCommand? c source = some (.relative d)) :
    encode? c source = some ('R' :: d.text) ∧
      (((Duration.isFull d.text = true ∨ Duration.isSimple d.text = true) ∧
        Duration.parse d.text = .ok d) ↔ d.days.toNat ≤ 999) ∧
      (999 < d.days.toNat → Duration.parse d.text = .error (.malformed d.text)) := by
  -- whether it was balanced or kept as written, what lies below the days fits its digits
  have hclock := fitsClock_of_ofCommand? h
  refine ⟨?_, ⟨?_, ?_⟩, Duration.parse_text_of_days_gt⟩
  · rw [encode?, h]
    rfl
  · rintro ⟨-, hread⟩
    exact Duration.days_le_of_parse hread
  · intro hdays
    have hread := Duration.parse_text hclock hdays
    exact ⟨Duration.isFull_or_isSimple_of_parse hread, hread⟩

/-- A command with nothing but a relative time, whose node covers so many bytes at the front of the
source. -/
def relativeCommand (stop : UInt64) : Command where
  node := ⟨.command, ⟨0, stop⟩, [⟨.timeTag, ⟨0, stop⟩, [⟨.timeRelative, ⟨0, stop⟩, []⟩]⟩]⟩
  isCommand := rfl

/-- A tag in the full form whose milliseconds have a zero in front is read back. -/
theorem encode?_read_back_full :
    ofCommand? (relativeCommand 18) "R-999T99:99:99.007".toList =
        some (.relative ⟨true, 999, 99, 99, 99, 7⟩) ∧
      Duration.parse (Duration.text ⟨true, 999, 99, 99, 99, 7⟩) =
        .ok ⟨true, 999, 99, 99, 99, 7⟩ := by
  have h : ofCommand? (relativeCommand 18) "R-999T99:99:99.007".toList =
      some (.relative ⟨true, 999, 99, 99, 99, 7⟩) := by decide +kernel
  exact ⟨h, ((encode?_read_back_iff h).2.1.2 (by decide)).2⟩

/-- A **bare count of a thousand days** is not read back: no form has four digits for the days. -/
theorem encode?_thousand_days :
    ofCommand? (relativeCommand 9) "R86400000".toList =
        some (.relative ⟨false, 1000, 0, 0, 0, 0⟩) ∧
      encode? (relativeCommand 9) "R86400000".toList = some "R1000T00:00:00".toList ∧
        Duration.parse "1000T00:00:00".toList =
          .error (.malformed "1000T00:00:00".toList) := by
  refine ⟨?_, ?_, ?_⟩
  · decide +kernel
  · decide +kernel
  · decide +kernel

/-! ## Relative times in writing -/

/-- **How a relative time is written.** In the full form it is written as the duration that is read
from it; in the simple form it is the balanced writing, without zero milliseconds; and when it has
neither form, or no duration can be read from it, it is not written. Whenever a duration is read, the
tag carries one of the same sign and the same size. -/
theorem encode?_of_relative {c : Command} {source body : Text} {tag n : Node}
    (htag : c.timeTag? = some tag) (hform : TimeForm.ofTag? tag = some (.relative n))
    (hbody : body? n source = some body) :
    (∀ d, Duration.isFull body = true → Duration.parse body = .ok d →
      encode? c source = some ('R' :: d.text)) ∧
    (∀ t, Duration.isSimple body = true → Duration.parseBalanced body = .ok t →
      encode? c source = some ('R' :: Duration.withoutZeroMilliseconds t)) ∧
    ((¬ ∃ d, (Duration.isFull body = true ∨ Duration.isSimple body = true) ∧
        Duration.parse body = .ok d) →
      encode? c source = none) ∧
    ∀ e, Duration.parse body = .ok e →
      ∃ d, ofCommand? c source = some (.relative d) ∧ encode? c source = some ('R' :: d.text) ∧
        d.isNegative = e.isNegative ∧ d.totalMilliseconds = e.totalMilliseconds := by
  have hcommand : ofCommand? c source = (relativeDuration? body).map relative := by
    rw [ofCommand?_of_relative htag hform, hbody, Option.bind_some]
  have hwritten : ∀ d, relativeDuration? body = some d →
      encode? c source = some ('R' :: d.text) := fun d hd => by
    rw [encode?, hcommand, hd]
    rfl
  refine ⟨fun d hfull hread => ?_, fun t hsimple hbalanced => ?_, fun hnot => ?_,
    fun e hread => ?_⟩
  · exact hwritten d (relativeDuration?_of_isFull hfull hread)
  · -- the balanced writing is that of the duration which is read
    rw [Duration.parseBalanced] at hbalanced
    cases hread : Duration.parse body with
    | error e =>
        rw [hread] at hbalanced
        cases hbalanced
    | ok d =>
        rw [hread] at hbalanced
        obtain rfl : d.balancedText = t := Except.ok.inj hbalanced
        rw [hwritten _ (relativeDuration?_of_isSimple hsimple hread), Duration.text_balance]
  · have hnone : relativeDuration? body = none := relativeDuration?_eq_none_iff.2 fun d hread =>
      hnot ⟨d, Duration.isFull_or_isSimple_of_parse hread, hread⟩
    rw [encode?, hcommand, hnone]
    rfl
  · obtain ⟨d, hd, hsign, hsize⟩ := relativeDuration?_keeps hread
    refine ⟨d, ?_, hwritten d hd, hsign, hsize⟩
    rw [hcommand, hd]
    rfl

/-- The **greatest bare count** of seconds, with a minus sign and a fraction: it is balanced into days
without loss. -/
theorem encode?_of_relative_greatestCount :
    body? ⟨.timeRelative, ⟨0, 27⟩, []⟩ "R -18446744073709551615.25 ".toList =
        some "-18446744073709551615.25".toList ∧
      encode? (relativeCommand 27) "R -18446744073709551615.25 ".toList =
        some "R-213503982334601T07:00:15.250".toList ∧
      ∃ d, ofCommand? (relativeCommand 27) "R -18446744073709551615.25 ".toList =
          some (.relative d) ∧
        d.isNegative = true ∧ d.totalMilliseconds = 18446744073709551615250 := by
  have hbody : body? ⟨.timeRelative, ⟨0, 27⟩, []⟩ "R -18446744073709551615.25 ".toList =
      some "-18446744073709551615.25".toList := by decide +kernel
  have hread : Duration.parse "-18446744073709551615.25".toList =
      .ok ⟨true, 0, 0, 0, 18446744073709551615, 250⟩ := by decide +kernel
  have hsimple : Duration.isSimple "-18446744073709551615.25".toList = true := by decide +kernel
  have hbalanced : Duration.parseBalanced "-18446744073709551615.25".toList =
      .ok "-213503982334601T07:00:15.250".toList := by decide +kernel
  obtain ⟨-, hwritten, -, hkeeps⟩ := encode?_of_relative
    (show (relativeCommand 27).timeTag? = some _ from rfl) rfl hbody
  refine ⟨hbody, ?_, ?_⟩
  · rw [hwritten _ hsimple hbalanced]
    decide +kernel
  · obtain ⟨d, hd, -, hsign, hsize⟩ := hkeeps _ hread
    exact ⟨d, hd, hsign, hsize⟩

end TimeTag

/-! ## Commands without a time -/

/-- The time of a tag that FPrime can express: the first absolute one, else the first relative one. -/
def Node.expressibleTime? (tag : Node) : Option Node :=
  tag.child? .timeAbsolute <|> tag.child? .timeRelative

/-- The time of a tag is **unreadable** when the span of its node has no slice in the source. -/
def Node.TimeUnreadable (tag : Node) (source : Text) : Prop :=
  ∃ n, tag.expressibleTime? = some n ∧ n.text? source = none

/-- The time of a tag is **unparseable** when it is relative and no duration can be read from what
stands behind its marker, without the blanks at its ends. -/
def Node.TimeUnparseable (tag : Node) (source : Text) : Prop :=
  ∃ n t, tag.child? .timeAbsolute = none ∧ tag.child? .timeRelative = some n ∧
    n.text? source = some t ∧ ∀ d, Duration.parse (Text.trim t.tail) ≠ .ok d

/-- **The time of a command is unknown** for one of four reasons, all about its first time tag. -/
inductive Command.TimeUnknown (c : Command) (source : Text) : Prop
  /-- The command has no time tag. -/
  | noTag (h : c.timeTag? = none)
  /-- The tag holds neither an absolute nor a relative time. -/
  | noForm {tag : Node} (htag : c.timeTag? = some tag) (habsolute : tag.child? .timeAbsolute = none)
      (hrelative : tag.child? .timeRelative = none)
  /-- Its time has no slice in the source. -/
  | unreadable {tag : Node} (htag : c.timeTag? = some tag) (h : tag.TimeUnreadable source)
  /-- Its time is relative, and is no duration. -/
  | unparseable {tag : Node} (htag : c.timeTag? = some tag) (h : tag.TimeUnparseable source)

namespace TimeTag

/-- A command whose time is unknown has none in writing. -/
theorem encode?_of_timeUnknown {c : Command} {source : Text} (h : c.TimeUnknown source) :
    encode? c source = none := by
  rw [encode?, Option.map_eq_none_iff]
  cases h with
  | noTag htag =>
      rw [ofCommand?, htag]
      rfl
  | noForm htag habsolute hrelative => exact ofCommand?_of_neither htag habsolute hrelative
  | unreadable htag h =>
      obtain ⟨n, hn, htext⟩ := h
      have hbody : body? n source = none := by rw [body?, htext, Option.map_none]
      rw [Node.expressibleTime?, Option.orElse_eq_orElse, Option.orElse_eq_or,
        Option.or_eq_some_iff] at hn
      rcases hn with habsolute | ⟨habsolute, hrelative⟩
      · rw [ofCommand?_of_absolute htag habsolute, hbody, Option.map_none]
      · rw [ofCommand?_of_relative htag (ofTag?_of_relative habsolute hrelative), hbody,
          Option.bind_none, Option.map_none]
  | unparseable htag h =>
      obtain ⟨n, t, habsolute, hrelative, htext, hparse⟩ := h
      rw [ofCommand?_of_relative htag (ofTag?_of_relative habsolute hrelative), body?, htext,
        Option.map_some, Option.bind_some, relativeDuration?_eq_none_iff.2 hparse, Option.map_none]

/-- A command without a time in writing is at fault: its tag is looked at in the order in which the
forms of time count. -/
theorem timeUnknown_of_encode? {c : Command} {source : Text} (h : encode? c source = none) :
    c.TimeUnknown source := by
  rw [encode?, Option.map_eq_none_iff] at h
  cases htag : c.timeTag? with
  | none => exact .noTag htag
  | some tag =>
      cases habsolute : tag.child? .timeAbsolute with
      | some n =>
          rw [ofCommand?_of_absolute htag habsolute, Option.map_eq_none_iff, body?,
            Option.map_eq_none_iff] at h
          refine .unreadable htag ⟨n, ?_, h⟩
          rw [Node.expressibleTime?, habsolute]
          rfl
      | none =>
          cases hrelative : tag.child? .timeRelative with
          | none => exact .noForm htag habsolute hrelative
          | some n =>
              rw [ofCommand?_of_relative htag (ofTag?_of_relative habsolute hrelative),
                Option.map_eq_none_iff, body?] at h
              cases htext : n.text? source with
              | none =>
                  refine .unreadable htag ⟨n, ?_, htext⟩
                  rw [Node.expressibleTime?, habsolute, hrelative]
                  rfl
              | some t =>
                  rw [htext, Option.map_some, Option.bind_some] at h
                  exact .unparseable htag
                    ⟨n, t, habsolute, hrelative, htext, relativeDuration?_eq_none_iff.1 h⟩

/-- **A command has no time in writing** exactly when its time is unknown. -/
theorem encode?_eq_none_iff {c : Command} {source : Text} :
    encode? c source = none ↔ c.TimeUnknown source :=
  ⟨timeUnknown_of_encode?, encode?_of_timeUnknown⟩

end TimeTag

end SequenceBridge
