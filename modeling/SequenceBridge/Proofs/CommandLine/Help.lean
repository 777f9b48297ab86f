import SequenceBridge.CommandLine.Help

/-! # Command lines that ask for help
Where help is asked for, nothing behind is looked at, so such a command line cannot name an action: read
to its end, the word that asks for help is no option that there is, and no operand.

* **`Word.ofBytes_of_isHelp`** — what a word that asks for help looks like.
* **`readOptions?_append_help`** — options are not read past such a word.
* **`Action.ofArguments?_of_help`** — a command line that asks for help names no action.
-/

namespace SequenceBridge

/-- A word that asks for help is **no operand**, and no option with a value. -/
theorem Word.ofBytes_of_isHelp {word : Bytes} (h : Word.isHelp word = true) :
    ofBytes word = .unknown ∨ ofBytes word = .option "help".toList none := by
  unfold Word.isHelp at h
  split at h
  · exact .inl rfl
  · obtain rfl := of_decide_eq_true h
    exact .inr (by decide)

/-- Where options are read up to a word that asks for help, **they are not read past it**. -/
theorem readOptions?_append_help {names : List String} (hnames : "help" ∉ names) {stops : Bool}
    {before : List Bytes} {found : Options × List Bytes}
    (hread : readOptions? names stops before = some found) (hstops : stops = true → found.2 = [])
    (hend : ∀ word ∈ before, Word.ofBytes word ≠ .endOfOptions) {word : Bytes}
    (hword : Word.isHelp word = true) (after : List Bytes) :
    readOptions? names stops (before ++ word :: after) = none := by
  fun_induction readOptions? names stops before generalizing found with
  | case1 =>
      have hunknown : (names.any fun known => known.toList = "help".toList) = false := by
        rw [List.any_eq_false]
        intro known hknown hsame
        exact hnames (String.toList_injective (of_decide_eq_true hsame) ▸ hknown)
      rcases Word.ofBytes_of_isHelp hword with hlook | hlook
      · simp only [List.nil_append, readOptions?, hlook]
      · simp only [List.nil_append, readOptions?, hlook, hunknown, Bool.false_eq_true, if_false]
  | case2 | case4 | case9 | case10 | case11 => exact nomatch hread
  | case3 first rest hlook => exact absurd hlook (hend first List.mem_cons_self)
  | case5 first rest hlook hstop =>
      obtain rfl := Option.some.inj hread
      exact absurd (hstops hstop) (List.cons_ne_nil first rest)
  | case6 first rest hlook hstop ih =>
      obtain ⟨inner, hinner, rfl⟩ := Option.map_eq_some_iff.1 hread
      have hnone := ih hinner (fun h => absurd h hstop)
        fun word hmem => hend word (List.mem_cons_of_mem first hmem)
      rw [List.cons_append, readOptions?, hlook]
      simp only [if_neg hstop, hnone, Option.map_none]
  | case7 first name hknown value rest hlook ih =>
      obtain ⟨inner, hinner, rfl⟩ := Option.map_eq_some_iff.1 hread
      have hnone := ih hinner hstops fun word hmem => hend word (List.mem_cons_of_mem first hmem)
      simp only [List.cons_append, readOptions?, hlook, hknown, hnone, if_true, Option.map_none]
  | case8 first name hknown next rest hoperand hlook ih =>
      obtain ⟨inner, hinner, rfl⟩ := Option.map_eq_some_iff.1 hread
      have hnone := ih hinner hstops fun word hmem =>
        hend word (List.mem_cons_of_mem first (List.mem_cons_of_mem next hmem))
      simp only [List.cons_append, readOptions?, hlook, hknown, hoperand, hnone, if_true,
        Option.map_none]

/-- A side on which help is asked for **cannot be read** to its end. -/
theorem readOptions?_of_asksForHelp {names : List String} (hnames : "help" ∉ names) {operands : Nat}
    {stops : Bool} (hstops : stops = true → operands = 0) {words : List Bytes}
    (h : asksForHelp names operands stops words = true) :
    readOptions? ("log-level" :: names) stops words = none := by
  simp only [asksForHelp, Bool.and_eq_true, decide_eq_true_eq] at h
  obtain ⟨⟨hbefore, hend⟩, hread⟩ := h
  obtain ⟨found, hfound, hright⟩ := (Option.any_eq_true _ _).1 hread
  simp only [Bool.and_eq_true, decide_eq_true_eq] at hright
  -- the words are those before the one that asks, that one, and what is behind it
  have hwords := List.takeWhile_append_dropWhile (p := fun word => !Word.isHelp word) (l := words)
  cases hdrop : words.dropWhile fun word => !Word.isHelp word with
  | nil =>
      rw [hdrop, List.append_nil] at hwords
      exact absurd hwords hbefore
  | cons word after =>
      have hword : Word.isHelp word = true := by
        have hnot := List.head?_dropWhile_not (fun word => !Word.isHelp word) words
        rw [hdrop] at hnot
        simpa using hnot
      rw [← hwords, hdrop]
      refine readOptions?_append_help (by simpa using hnames) hfound (fun hstop => ?_)
        (fun word hmem => of_decide_eq_true (List.all_eq_true.1 hend word hmem)) hword after
      have hnone : found.2.length ≤ 0 := hstops hstop ▸ hright.1.2
      exact List.length_eq_zero_iff.1 (Nat.le_zero.1 hnone)

namespace Action

/-- A side that cannot be read has no options. -/
theorem readSide?_of_asksForHelp (env : Environment) {names : List String} (hnames : "help" ∉ names)
    {operands : Nat} {words : List Bytes} (h : asksForHelp names operands false words = true) :
    readSide? env names false words = none := by
  rw [readSide?, readOptions?_of_asksForHelp hnames (fun hstop => absurd hstop Bool.false_ne_true) h]
  rfl

/-- A name behind which help is asked for, or that of help itself, **names no action**. -/
theorem ofName?_of_help (env : Environment) {name : Bytes} {topic about : HelpTopic}
    (hname : HelpTopic.named? name = some topic) {words : List Bytes}
    (h : topic.ofNamed? words = some about) : ofName? env name words = none := by
  obtain rfl : Text.toBytes topic.name.toList = name := by
    rw [HelpTopic.named?] at hname
    simpa using List.find?_some hname
  by_cases hhelp : topic = .help
  · subst hhelp
    unfold ofName?
    simp +decide only [if_false]
  · unfold HelpTopic.ofNamed? at h
    rw [if_neg hhelp] at h
    have hasks : asksForHelp topic.options topic.operands false words = true := by
      split at h
      · next hasks => exact hasks
      · exact nomatch h
    have hread := readSide?_of_asksForHelp env (by cases topic <;> decide) hasks
    unfold ofName?
    cases topic with
    | program => exact absurd (List.mem_of_find?_eq_some hname) (by decide)
    | importText | exportTree | lint | version =>
        -- each name is its own, and its side is read first
        rw [HelpTopic.options] at hread
        simp +decide only [hread, Option.bind_none, if_true, if_false]
    | help => exact absurd rfl hhelp

/-- A command line that asks for help **names no action**. -/
theorem ofArguments?_of_help (env : Environment) {words : List Bytes} {topic : HelpTopic}
    (h : HelpTopic.ofArguments? words = some topic) : ofArguments? env words = none := by
  rw [HelpTopic.ofArguments?] at h
  split at h
  · next hasks =>
      rw [ofArguments?, readSide?,
        readOptions?_of_asksForHelp List.not_mem_nil (fun _ => rfl) hasks]
      rfl
  · obtain ⟨found, hfound, h⟩ := Option.bind_eq_some_iff.1 h
    split at h
    · exact nomatch h
    · next name rest hrest =>
        split at h
        · obtain ⟨named, hname, h⟩ := Option.bind_eq_some_iff.1 h
          rw [ofArguments?, readSide?, hfound]
          rw [Option.bind_eq_none_iff]
          intro side hside
          obtain ⟨hsame, -⟩ := Option.filter_eq_some_iff.1 hside
          obtain rfl := Option.some.inj hsame
          rw [hrest]
          exact ofName?_of_help env hname h
        · exact nomatch h

end Action

end SequenceBridge
