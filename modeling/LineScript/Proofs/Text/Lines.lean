import LineScript.Proofs.Text.Runs
import LineScript.Text.Lines

/-!
# Lines and their ends

Texts without line breaks, put one under another, are the lines of what results, provided that none is
empty and none ends with a carriage return. A text that neither begins nor ends with white space is
not changed by trimming. A line feed cuts a text in two whose lines are found apart; to the lines
before it, it does no more than a line end does.
-/

namespace LineScript.Text

set_option autoImplicit false

theorem trim_eq_self {text : Text} (start : beginsWith isWhiteSpace text = false)
    (finish : endsWith isWhiteSpace text = false) : trim text = text := by
  have keep : ∀ {run : Text}, beginsWith isWhiteSpace run = false →
      run.dropWhile isWhiteSpace = run := by
    intro run stop
    exact (take_while_drop_while_iff.mpr ⟨List.forall_mem_nil _, rfl, stop⟩).2
  have finishReversed : beginsWith isWhiteSpace text.reverse = false := by
    rw [beginsWith, List.head?_reverse]
    exact finish
  rw [trim, trimStart, keep start, trimEnd, keep finishReversed, List.reverse_reverse]

theorem mem_of_mem_trim {c : Char} {text : Text} (member : c ∈ trim text) : c ∈ text := by
  rw [trim, trimEnd, List.mem_reverse] at member
  have inside := (List.dropWhile_suffix isWhiteSpace).subset member
  rw [List.mem_reverse] at inside
  exact (List.dropWhile_suffix isWhiteSpace).subset inside

theorem exists_trim (text : Text) :
    ∃ before after, text = before ++ (trim text ++ after) ∧
      (∀ c ∈ before, isWhiteSpace c = true) ∧ ∀ c ∈ after, isWhiteSpace c = true := by
  have blank : ∀ run : Text, ∀ c ∈ run.takeWhile isWhiteSpace, isWhiteSpace c = true :=
    fun run => List.all_eq_true.mp List.all_takeWhile
  have ending : trim text ++ ((trimStart text).reverse.takeWhile isWhiteSpace).reverse =
      trimStart text := by
    rw [trim, trimEnd, ← List.reverse_append, List.takeWhile_append_dropWhile, List.reverse_reverse]
  refine ⟨text.takeWhile isWhiteSpace, ((trimStart text).reverse.takeWhile isWhiteSpace).reverse,
    ?_, blank text, ?_⟩
  · rw [ending, trimStart, List.takeWhile_append_dropWhile]
  · intro c member
    exact blank _ c (List.mem_reverse.mp member)

theorem trim_append_white_space {c : Char} (text : Text) (blank : isWhiteSpace c = true) :
    trim (text ++ [c]) = trim text := by
  have ending : ∀ run : Text, trimEnd (run ++ [c]) = trimEnd run := by
    intro run
    rw [trimEnd, List.reverse_append, List.reverse_singleton, List.singleton_append,
      List.dropWhile_cons_of_pos blank, trimEnd]
  rw [trim, trim, trimStart, trimStart, List.dropWhile_append]
  split
  · rename_i empty
    rw [List.isEmpty_iff.mp empty, List.dropWhile_cons_of_pos blank, List.dropWhile_nil]
  · exact ending _

theorem lines_eq_singleton {line : Text} (nonempty : line ≠ []) (unbroken : '\n' ∉ line) :
    lines line = [line] := by
  induction line with
  | nil => exact absurd rfl nonempty
  | cons c rest ih =>
      rw [List.mem_cons, not_or] at unbroken
      have noFeed : ¬(c = '\r' ∧ rest.head? = some '\n') := by
        rintro ⟨-, next⟩
        exact unbroken.2 (List.mem_of_head? next)
      rw [lines, if_neg (fun same => unbroken.1 same.symm), if_neg noFeed]
      cases rest with
      | nil => rfl
      | cons d others => rw [ih (by simp) unbroken.2]

theorem lines_append_line_feed {line : Text} (rest : Text) (unbroken : '\n' ∉ line)
    (finish : line.getLast? ≠ some '\r') : lines (line ++ '\n' :: rest) = line :: lines rest := by
  induction line with
  | nil => exact lines_line_feed rest
  | cons c others ih =>
      rw [List.mem_cons, not_or] at unbroken
      have finishOthers : others.getLast? ≠ some '\r' := by
        intro last
        rw [List.getLast?_cons, last] at finish
        exact finish rfl
      have noFeed : ¬(c = '\r' ∧ (others ++ '\n' :: rest).head? = some '\n') := by
        rintro ⟨rfl, next⟩
        cases others with
        | nil => exact finish rfl
        | cons d others =>
            rw [List.cons_append, List.head?_cons, Option.some.injEq] at next
            exact unbroken.2 (by simp [next])
      rw [List.cons_append, lines, if_neg (fun same => unbroken.1 same.symm), if_neg noFeed,
        ih unbroken.2 finishOthers]

theorem lines_join {texts : List Text} (nonempty : ∀ text ∈ texts, text ≠ [])
    (unbroken : ∀ text ∈ texts, '\n' ∉ text)
    (finish : ∀ text ∈ texts, text.getLast? ≠ some '\r') : lines (join ['\n'] texts) = texts := by
  induction texts with
  | nil => rfl
  | cons text others ih =>
      rw [List.forall_mem_cons] at nonempty unbroken finish
      cases others with
      | nil => exact lines_eq_singleton nonempty.1 unbroken.1
      | cons next others =>
          rw [join, List.append_assoc]
          change lines (text ++ '\n' :: join ['\n'] (next :: others)) = _
          rw [lines_append_line_feed _ unbroken.1 finish.1, ih nonempty.2 unbroken.2 finish.2]

/-! ## A line feed in the middle -/

/-- Puts a character before the first of some lines. -/
def putBefore (c : Char) : List Text → List Text
  | [] => [[c]]
  | line :: others => (c :: line) :: others

theorem lines_cons (c : Char) (rest : Text) :
    lines (c :: rest) =
      if c = '\n' then [] :: lines rest
      else if c = '\r' ∧ rest.head? = some '\n' then lines rest
      else putBefore c (lines rest) := rfl

theorem put_before_append (c : Char) {first : List Text} (second : List Text) (started : first ≠ []) :
    putBefore c (first ++ second) = putBefore c first ++ second := by
  cases first with
  | nil => exact absurd rfl started
  | cons line others => rfl

theorem length_put_before (c : Char) {lines : List Text} (started : lines ≠ []) :
    (putBefore c lines).length = lines.length := by
  cases lines with
  | nil => exact absurd rfl started
  | cons line others => rfl

theorem lines_ne_nil {text : Text} (nonempty : text ≠ []) : lines text ≠ [] := by
  induction text with
  | nil => exact absurd rfl nonempty
  | cons c rest ih =>
      rw [lines_cons]
      split
      · exact List.cons_ne_nil _ _
      · split
        · rename_i feed
          apply ih
          rintro rfl
          cases feed.2
        · cases lines rest <;> exact List.cons_ne_nil _ _

/-- What stands before a line feed and what stands after it are cut into lines apart. -/
theorem lines_append_line_feed_append (first second : Text) :
    lines (first ++ '\n' :: second) = lines (first ++ ['\n']) ++ lines second := by
  induction first with
  | nil => simp [lines]
  | cons c rest ih =>
      have next : (rest ++ '\n' :: second).head? = (rest ++ ['\n']).head? := by
        cases rest <;> rfl
      have started : lines (rest ++ ['\n']) ≠ [] := lines_ne_nil (by simp)
      rw [List.cons_append, List.cons_append, lines_cons, lines_cons, next, ih,
        put_before_append c _ started]
      split
      · rfl
      · split <;> rfl

theorem length_lines_append_line_feed (text : Text) :
    (lines (text ++ ['\n'])).length = text.count '\n' + 1 := by
  induction text with
  | nil => rfl
  | cons c rest ih =>
      have started : lines (rest ++ ['\n']) ≠ [] := lines_ne_nil (by simp)
      rw [List.cons_append, lines_cons]
      by_cases feed : c = '\n'
      · rw [if_pos feed, feed, List.count_cons_self, List.length_cons, ih]
      · rw [if_neg feed, List.count_cons_of_ne feed, ← ih]
        split
        · rfl
        · exact length_put_before c started

/-- What a line feed put at the end of a text does to its lines: nothing, if it only ends the last of
them; otherwise it adds an empty line or takes a carriage return away. -/
inductive Ended (before after : List Text) : Prop where
  | same (same : after = before)
  | blank (blank : after = before ++ [[]])
  | cut (earlier : List Text) (last : Text) (before_eq : before = earlier ++ [last ++ ['\r']])
    (after_eq : after = earlier ++ [last])

theorem Ended.cons {before after : List Text} (ended : Ended before after) (line : Text) :
    Ended (line :: before) (line :: after) := by
  cases ended with
  | same same => exact .same (by rw [same])
  | blank blank => exact .blank (by rw [blank, List.cons_append])
  | cut earlier last before_eq after_eq =>
      exact .cut (line :: earlier) last (by rw [before_eq, List.cons_append])
        (by rw [after_eq, List.cons_append])

theorem Ended.put_before {before after : List Text} (ended : Ended before after) (c : Char)
    (started : before ≠ []) : Ended (putBefore c before) (putBefore c after) := by
  cases ended with
  | same same => exact .same (by rw [same])
  | blank blank => exact .blank (by rw [blank, put_before_append c _ started])
  | cut earlier last before_eq after_eq =>
      subst before_eq after_eq
      cases earlier with
      | nil => exact .cut [] (c :: last) rfl rfl
      | cons line others => exact .cut ((c :: line) :: others) last rfl rfl

theorem lines_ended (text : Text) : Ended (lines text) (lines (text ++ ['\n'])) := by
  induction text with
  | nil => exact .blank rfl
  | cons c rest ih =>
      rw [List.cons_append, lines_cons, lines_cons]
      by_cases feed : c = '\n'
      · rw [if_pos feed, if_pos feed]
        exact ih.cons []
      · rw [if_neg feed, if_neg feed]
        cases rest with
        | nil =>
            by_cases carriage : c = '\r'
            · subst carriage
              exact .cut [] [] rfl rfl
            · rw [if_neg (fun both => carriage both.1), if_neg (fun both => carriage both.1)]
              exact .same rfl
        | cons d others =>
            have next : (d :: others ++ ['\n']).head? = (d :: others).head? := rfl
            rw [next]
            split
            · exact ih
            · exact ih.put_before c (lines_ne_nil (List.cons_ne_nil d others))

end LineScript.Text
