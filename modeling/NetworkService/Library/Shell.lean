import Mathlib.Data.List.Forall2

/-!
# Command lines of the shell

The shell cuts a text into words and operators before it runs anything: blanks end a word, operator
characters end a word and stand for themselves, quotes and backslashes are removed.  A word is
literal if none of its characters that are not quoted begins an expansion, a pattern or an
assignment; only then is it what the command gets.  Line continuations are not interpreted, a text
with one has no tokens.
-/

namespace Shell

/-! ### Token recognition -/

inductive Quote
  | bare
  | escaped
  | single
  | double
  | doubleEscaped
  deriving DecidableEq

inductive Token
  | word (text : List Char) (literal : Bool)
  | operator (text : List Char)
  deriving DecidableEq

/-- The token that has been begun. -/
inductive Pending
  | nothing
  | word (text : List Char) (literal : Bool) (quote : Quote)
  | operator (text : List Char)
  | comment
  | unsupported
  deriving DecidableEq

/-- The finished tokens come newest first. -/
structure Scan where
  tokens : List Token
  pending : Pending
  deriving DecidableEq

def isBlank (c : Char) : Bool := c = ' ' ∨ c = '\t'

def isOperatorChar (c : Char) : Bool := c ∈ ['&', ';', '|', '<', '>', '(', ')', '\n']

/-- Operators of several characters. -/
def operators : List (List Char) :=
  ["&&", "||", ";;", "<<", ">>", "<&", ">&", "<>", ">|", "<<-"].map String.toList

/-- Outside of quotes: parameters and substitutions, patterns, home directories, assignments. -/
def startsExpansion (c : Char) : Bool := c ∈ ['$', '\x60', '*', '?', '[', '~', '=']

/-- Also between double quotes. -/
def expandsInDouble (c : Char) : Bool := c = '$' ∨ c = '\x60'

def bareChar (text : List Char) (literal : Bool) (c : Char) : Pending :=
  if c = '\'' then .word text literal .single
  else if c = '"' then .word text literal .double
  else if c = '\\' then .word text literal .escaped
  else .word (text ++ [c]) (literal && !startsExpansion c) .bare

/-- A character behind finished tokens. -/
def start (tokens : List Token) (c : Char) : Scan :=
  if isBlank c then ⟨tokens, .nothing⟩
  else if isOperatorChar c then ⟨tokens, .operator [c]⟩
  else if c = '#' then ⟨tokens, .comment⟩
  else ⟨tokens, bareChar [] true c⟩

def wordChar (text : List Char) (literal : Bool) : Quote → Char → Pending
  | .bare, c => bareChar text literal c
  | .escaped, c => if c = '\n' then .unsupported else .word (text ++ [c]) literal .bare
  | .single, c => if c = '\'' then .word text literal .bare else .word (text ++ [c]) literal .single
  | .double, c =>
    if c = '"' then .word text literal .bare
    else if c = '\\' then .word text literal .doubleEscaped
    else .word (text ++ [c]) (literal && !expandsInDouble c) .double
  | .doubleEscaped, c =>
    if c = '\n' then .unsupported
    else if c = '"' ∨ c = '\\' ∨ expandsInDouble c then .word (text ++ [c]) literal .double
    else .word (text ++ ['\\', c]) literal .double

def step (s : Scan) (c : Char) : Scan :=
  match s.pending with
  | .nothing => start s.tokens c
  | .word text literal quote =>
    if quote = .bare ∧ (isBlank c ∨ isOperatorChar c) then start (.word text literal :: s.tokens) c
    else { s with pending := wordChar text literal quote c }
  | .operator text =>
    if text ++ [c] ∈ operators then { s with pending := .operator (text ++ [c]) }
    else start (.operator text :: s.tokens) c
  | .comment => if c = '\n' then start s.tokens c else s
  | .unsupported => s

/-- At the end every quote has to be closed. -/
def finish (s : Scan) : Option (List Token) :=
  match s.pending with
  | .nothing | .comment => some s.tokens.reverse
  | .word text literal .bare => some (.word text literal :: s.tokens).reverse
  | .operator text => some (.operator text :: s.tokens).reverse
  | .word _ _ _ | .unsupported => none

def tokens (text : List Char) : Option (List Token) := finish (text.foldl step ⟨[], .nothing⟩)

/-! ### Simple commands -/

/-- A command with its words, to be waited for or not. -/
structure Command where
  words : List (List Char)
  background : Bool
  deriving DecidableEq

/-- Words that begin a compound command where a command begins. -/
def reserved : List (List Char) :=
  ["!", "\x7b", "\x7d", "case", "do", "done", "elif", "else", "esac", "fi", "for", "if", "in", "then",
    "until", "while"].map String.toList

/-- The words of a list of literal words. -/
def literals : List Token → Option (List (List Char))
  | [] => some []
  | .word text true :: rest => (literals rest).map (text :: ·)
  | _ :: _ => none

/-- The one command that a text consists of: literal words, and an ampersand behind them or not. -/
def simpleCommand (text : List Char) : Option Command :=
  match tokens text with
  | none => none
  | some found =>
    let background := found.getLast? = some (.operator ['&'])
    match literals (if background then found.dropLast else found) with
    | some (first :: rest) =>
      if first ∈ reserved then none else some ⟨first :: rest, background⟩
    | _ => none

/-! ### Writing words -/

/-- Behind finished tokens, `text` is scanned as one literal word that stands for `value`. -/
def Renders (value text : List Char) : Prop :=
  ∀ tokens, text.foldl step ⟨tokens, .nothing⟩ = ⟨tokens, .word value true .bare⟩

/-- Blanks, operator characters, what begins an expansion, quotes and the sign of a comment. -/
def specials : List Char :=
  [' ', '\t', '&', ';', '|', '<', '>', '(', ')', '\n', '$', '\x60', '*', '?', '[', '~', '=', '\'',
    '"', '\\', '#']

/-- A character that stands for itself wherever it is. -/
def isPlain (c : Char) : Bool := c ∉ specials

theorem isPlain_iff {c : Char} : isPlain c = true ↔ isBlank c = false ∧ isOperatorChar c = false ∧
    startsExpansion c = false ∧ c ≠ '\'' ∧ c ≠ '"' ∧ c ≠ '\\' ∧ c ≠ '#' := by
  simp [isPlain, specials, isBlank, isOperatorChar, startsExpansion, and_assoc]

theorem bareChar_plain {c : Char} (h : isPlain c = true) (text : List Char) (literal : Bool) :
    bareChar text literal c = .word (text ++ [c]) literal .bare := by
  obtain ⟨-, -, hexpands, hsingle, hdouble, hescape, -⟩ := isPlain_iff.mp h
  simp [bareChar, hsingle, hdouble, hescape, hexpands]

theorem step_plain {c : Char} (h : isPlain c = true) (tokens : List Token) (text : List Char)
    (literal : Bool) :
    step ⟨tokens, .word text literal .bare⟩ c = ⟨tokens, .word (text ++ [c]) literal .bare⟩ := by
  obtain ⟨hblank, hoperator, -⟩ := isPlain_iff.mp h
  simp [step, hblank, hoperator, wordChar, bareChar_plain h]

theorem foldl_plain {l : List Char} (h : l.all isPlain = true) (tokens : List Token)
    (text : List Char) (literal : Bool) :
    l.foldl step ⟨tokens, .word text literal .bare⟩ = ⟨tokens, .word (text ++ l) literal .bare⟩ := by
  induction l generalizing text with
  | nil => rw [List.foldl_nil, List.append_nil]
  | cons c l ih =>
    rw [List.all_cons, Bool.and_eq_true] at h
    rw [List.foldl_cons, step_plain h.1, ih h.2, List.append_assoc, List.singleton_append]

/-- A text of plain characters stands for itself. -/
theorem renders_plain {text : List Char} (hne : text ≠ []) (h : text.all isPlain = true) :
    Renders text text := by
  intro tokens
  cases text with
  | nil => exact absurd rfl hne
  | cons c l =>
    rw [List.all_cons, Bool.and_eq_true] at h
    obtain ⟨hblank, hoperator, -, -, -, -, hcomment⟩ := isPlain_iff.mp h.1
    have hstart : step ⟨tokens, .nothing⟩ c = ⟨tokens, .word [c] true .bare⟩ := by
      simp [step, start, hblank, hoperator, hcomment, bareChar_plain h.1]
    rw [List.foldl_cons, hstart, foldl_plain h.2, List.singleton_append]

/-- What stands for a character between single quotes; the quote itself ends them, is escaped, and
begins them again. -/
def quoteChar (c : Char) : List Char := if c = '\'' then "'\\''".toList else [c]

def quote (value : List Char) : List Char := '\'' :: (value.flatMap quoteChar ++ ['\''])

theorem foldl_quoteChar (tokens : List Token) (text : List Char) (c : Char) :
    (quoteChar c).foldl step ⟨tokens, .word text true .single⟩ =
      ⟨tokens, .word (text ++ [c]) true .single⟩ := by
  unfold quoteChar
  by_cases hquote : c = '\''
  · subst hquote
    have hblank : isBlank '\'' = false := by decide
    have hoperator : isOperatorChar '\'' = false := by decide
    have hblank' : isBlank '\\' = false := by decide
    have hoperator' : isOperatorChar '\\' = false := by decide
    show [ '\'', '\\', '\'', '\''].foldl step _ = _
    simp [step, wordChar, bareChar, hblank, hoperator, hblank', hoperator']
  · rw [if_neg hquote]
    simp [step, wordChar, hquote]

/-- **Quoting is right for every text.** -/
theorem renders_quote (value : List Char) : Renders value (quote value) := by
  intro tokens
  have hbody : ∀ (l text : List Char), (l.flatMap quoteChar).foldl step
      ⟨tokens, .word text true .single⟩ = ⟨tokens, .word (text ++ l) true .single⟩ := by
    intro l
    induction l with
    | nil =>
      intro text
      rw [List.flatMap_nil, List.foldl_nil, List.append_nil]
    | cons c l ih =>
      intro text
      rw [List.flatMap_cons, List.foldl_append, foldl_quoteChar, ih, List.append_assoc,
        List.singleton_append]
  have hopen : step ⟨tokens, .nothing⟩ '\'' = ⟨tokens, .word [] true .single⟩ := by
    have hblank : isBlank '\'' = false := by decide
    have hoperator : isOperatorChar '\'' = false := by decide
    simp [step, start, hblank, hoperator, bareChar]
  have hclose : step ⟨tokens, .word value true .single⟩ '\'' = ⟨tokens, .word value true .bare⟩ := by
    simp [step, wordChar]
  rw [quote, List.foldl_cons, hopen, List.foldl_append, hbody, List.nil_append]
  exact hclose

/-! ### Command lines -/

/-- Words with blanks between them. -/
def line (texts : List (List Char)) : List Char := [' '].intercalate texts

theorem line_cons_cons (text next : List Char) (texts : List (List Char)) :
    line (text :: next :: texts) = text ++ ' ' :: line (next :: texts) := by
  simp [line, List.intercalate, List.intersperse]

theorem line_singleton (text : List Char) : line [text] = text := by
  simp [line]

/-- Words of bounded length, and a blank for each. -/
theorem length_line_le {bound : ℕ} {texts : List (List Char)}
    (h : ∀ text ∈ texts, text.length ≤ bound) :
    (line texts).length ≤ texts.length * (bound + 1) := by
  induction texts with
  | nil => exact Nat.zero_le _
  | cons text texts ih =>
    have htext := h text List.mem_cons_self
    cases texts with
    | nil =>
      rw [line_singleton, List.length_singleton]
      omega
    | cons next texts =>
      have hrest := ih fun other hother => h other (List.mem_cons_of_mem _ hother)
      rw [line_cons_cons, List.length_append, List.length_cons, List.length_cons, Nat.succ_mul]
      omega

/-- What is in no word, and is not the blank, is not in the line. -/
theorem not_mem_line {c : Char} (hc : c ≠ ' ') {texts : List (List Char)}
    (h : ∀ text ∈ texts, c ∉ text) : c ∉ line texts := by
  induction texts with
  | nil => exact List.not_mem_nil
  | cons text texts ih =>
    have htext := h text List.mem_cons_self
    cases texts with
    | nil => rwa [line_singleton]
    | cons next texts =>
      have hrest := ih fun other hother => h other (List.mem_cons_of_mem _ hother)
      rw [line_cons_cons]
      intro hmem
      rcases List.mem_append.mp hmem with hmem | hmem
      · exact htext hmem
      · rcases List.mem_cons.mp hmem with heq | hmem
        · exact hc heq
        · exact hrest hmem

/-- The last word is still open at the end of the line. -/
theorem foldl_line {values texts : List (List Char)} (h : List.Forall₂ Renders values texts)
    (hne : values ≠ []) (before : List Token) :
    ∃ init last, values = init ++ [last] ∧ (line texts).foldl step ⟨before, .nothing⟩ =
      ⟨(init.map (.word · true)).reverse ++ before, .word last true .bare⟩ := by
  induction h generalizing before with
  | nil => exact absurd rfl hne
  | @cons value text values texts hrenders hrest ih =>
    cases hrest with
    | nil => exact ⟨[], value, rfl, (by rw [line_singleton]; exact hrenders before)⟩
    | @cons next nextText values texts _ _ =>
      obtain ⟨init, last, hvalues, hscan⟩ := ih nofun (.word value true :: before)
      refine ⟨value :: init, last, by rw [hvalues, List.cons_append], ?_⟩
      have hblank : step ⟨before, .word value true .bare⟩ ' ' =
          ⟨.word value true :: before, .nothing⟩ := by
        have hspace : isBlank ' ' = true := by decide
        simp [step, start, hspace]
      rw [line_cons_cons, List.foldl_append, hrenders before, List.foldl_cons, hblank, hscan]
      simp

theorem literals_words (values : List (List Char)) :
    literals (values.map (.word · true)) = some values := by
  induction values with
  | nil => rfl
  | cons value values ih =>
    rw [List.map_cons, literals, ih]
    rfl

/-- Words that are written as such make up one command. -/
theorem simpleCommand_line {first : List Char} {values texts : List (List Char)}
    (h : List.Forall₂ Renders (first :: values) texts) (hfirst : first ∉ reserved) :
    simpleCommand (line texts) = some ⟨first :: values, false⟩ := by
  obtain ⟨init, last, hvalues, hscan⟩ := foldl_line h (List.cons_ne_nil _ _) []
  have htokens : tokens (line texts) = some ((first :: values).map (.word · true)) := by
    rw [tokens, hscan, hvalues]
    simp [finish]
  have hlast : ((first :: values).map (Token.word · true)).getLast? ≠
      some (.operator ['&']) := by
    rw [hvalues]
    simp
  unfold simpleCommand
  rw [htokens]
  simp only [hlast, if_false, literals_words, hfirst, decide_false]

/-- With an ampersand behind it the command runs in the background. -/
theorem simpleCommand_background {first : List Char} {values texts : List (List Char)}
    (h : List.Forall₂ Renders (first :: values) texts) (hfirst : first ∉ reserved) :
    simpleCommand (line texts ++ [' ', '&']) = some ⟨first :: values, true⟩ := by
  obtain ⟨init, last, hvalues, hscan⟩ := foldl_line h (List.cons_ne_nil _ _) []
  have htokens : tokens (line texts ++ [' ', '&']) =
      some ((first :: values).map (.word · true) ++ [.operator ['&']]) := by
    have hspace : isBlank ' ' = true := by decide
    have hampersand : isBlank '&' = false ∧ isOperatorChar '&' = true := by decide
    rw [tokens, List.foldl_append, hscan, hvalues]
    simp [step, start, hspace, hampersand, finish]
  unfold simpleCommand
  rw [htokens]
  simp only [List.getLast?_concat, decide_true, if_true, List.dropLast_concat, literals_words,
    hfirst, if_false]

end Shell
