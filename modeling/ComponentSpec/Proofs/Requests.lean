import ComponentSpec.CommandLine
import Mathlib.Data.List.Basic

set_option autoImplicit false

/-! # What arguments ask for

Arguments are read from the front. An option that is written with its value is read as that option
(`CommandLine.given?_spelled`), and no option is read with an empty value
(`CommandLine.ne_empty_of_given?`). So a derivation that was asked for can be spelled out again
without the file that it writes (`CommandLine.ofArgs?_printArgs`).

Help is answered when the reading comes to a request for it. `CommandLine.ofArgs?_append_help`:
behind a complete command a request for help takes the place of the command, whatever follows. -/

namespace ComponentSpec.CommandLine

/-! ## Options as they are written -/

/-- An option with its value behind an equals sign. -/
def spelled (name value : String) : String :=
  "--" ++ name ++ "=" ++ value

theorem toList_spelled (name value : String) :
    (spelled name value).toList = '-' :: '-' :: (name.toList ++ '=' :: value.toList) := by
  simp [spelled]

theorem option?_spelled {name : String} (hname : '=' ∉ name.toList) (value : String) :
    option? (spelled name value) = some (name, some value) := by
  have hbefore : ∀ c ∈ name.toList, decide (c ≠ '=') = true := by
    intro c hc
    rw [decide_eq_true_eq]
    rintro rfl
    exact hname hc
  rw [option?, toList_spelled]
  simp only [List.takeWhile_append_of_pos hbefore, List.dropWhile_append_of_pos hbefore]
  simp

/-- Only the equals sign is looked at: it stands in the option. -/
theorem spelled_ne {name value arg : String} (h : '=' ∉ arg.toList) :
    spelled name value ≠ arg := by
  rintro rfl
  rw [toList_spelled] at h
  simp at h

theorem not_asksFor_help_spelled (name value : String) :
    ¬ asksFor "help" 'h' (spelled name value) = true := by
  have hlong : spelled name value ≠ "--help" := spelled_ne (by decide)
  simp [asksFor, hlong, toList_spelled]

theorem given?_spelled {known rest : List String} {before : List (String × String)}
    {name value : String} (hname : '=' ∉ name.toList) (hknown : name ∈ known)
    (hnew : name ∉ before.map Prod.fst) (hvalue : value ≠ "") :
    given? known before (spelled name value :: rest)
      = given? known (before ++ [(name, value)]) rest := by
  have hend : spelled name value ≠ "--" := spelled_ne (by decide)
  rw [given?, if_neg hend, if_neg (not_asksFor_help_spelled name value), option?_spelled hname]
  simp [hknown, hnew, hvalue]

/-! ## Options as they are read -/

theorem ne_empty_of_isValue {v : String} (h : isValue v = true) : v ≠ "" := by
  rintro rfl
  exact absurd h (by decide)

/-- No option is given an empty value. -/
theorem ne_empty_of_given? {known args : List String} {before opts : List (String × String)}
    (h : given? known before args = some (.options opts)) (hbefore : ∀ o ∈ before, o.2 ≠ "") :
    ∀ o ∈ opts, o.2 ≠ "" := by
  have hmore : ∀ {before : List (String × String)} {name v : String}, (∀ o ∈ before, o.2 ≠ "") →
      v ≠ "" → ∀ o ∈ before ++ [(name, v)], o.2 ≠ "" := by
    intro before name v hbefore hv o ho
    rcases List.mem_append.1 ho with ho | ho
    · exact hbefore o ho
    · rw [List.mem_singleton.1 ho]
      exact hv
  fun_induction given? known before args with
  | case1 =>
      cases h
      exact hbefore
  | case2 =>
      cases h
      exact hbefore
  | case8 before arg rest harg hhelp name hname v hv hoption ih =>
      exact ih h (hmore hbefore (by simpa using hv))
  | case9 before arg harg hhelp name hname v rest hv hoption ih =>
      -- The option takes the next argument for its value.
      exact ih h (hmore hbefore (ne_empty_of_isValue hv))
  | _ => exact absurd h nofun

/-- Behind options that were read without a mistake a request for help is answered. -/
theorem given?_append_help {known args : List String} {before opts : List (String × String)}
    (h : given? known before args = some (.options opts)) (hend : "--" ∉ args)
    (more : List String) : given? known before (args ++ "--help" :: more) = some .help := by
  fun_induction given? known before args with
  | case1 before =>
      rw [List.nil_append, given?, if_neg (by decide), if_pos (by decide)]
  | case2 => exact absurd List.mem_cons_self hend
  | case8 before arg rest harg hhelp name hname v hv hoption ih =>
      rw [List.cons_append, given?, if_neg harg, if_neg hhelp, hoption]
      simp only [if_neg hname, if_neg hv]
      exact ih h fun hmem => hend (List.mem_cons_of_mem _ hmem)
  | case9 before arg harg hhelp name hname v rest hv hoption ih =>
      rw [List.cons_append, List.cons_append, given?, if_neg harg, if_neg hhelp, hoption]
      simp only [if_neg hname, if_pos hv]
      exact ih h fun hmem => hend (List.mem_cons_of_mem _ (List.mem_cons_of_mem _ hmem))
  | _ => exact absurd h nofun

/-! ## Commands -/

/-- The options that a command knows. -/
def Command.known : Command → List String
  | .derive .. => ["in", "cached-names", "out"]
  | .names _ => ["in"]
  | .fingerprint _ => ["in"]

/-- The page about a command. -/
def Command.page : Command → Page
  | .derive .. => .derive
  | .names _ => .names
  | .fingerprint _ => .fingerprint

/-- The command has its paths from the options. -/
def Command.From (opts : List (String × String)) : Command → Prop
  | .derive input cachedNames out => opts.lookup "in" = some input
      ∧ opts.lookup "cached-names" = cachedNames ∧ opts.lookup "out" = out
  | .names input => opts.lookup "in" = some input
  | .fingerprint input => opts.lookup "in" = some input

theorem exists_given_of_requestFor?_eq_run {known args : List String} {page : Page}
    {make : (String → Option String) → Option Command} {c : Command}
    (h : requestFor? known page make args = some (.run c)) :
    ∃ opts, given? known [] args = some (.options opts)
      ∧ (make fun name => opts.lookup name) = some c := by
  unfold requestFor? at h
  cases hgiven : given? known [] args with
  | none => simp [hgiven] at h
  | some given =>
      cases given with
      | help => simp [hgiven] at h
      | options opts => exact ⟨opts, rfl, by simpa [hgiven, Option.bind_eq_some_iff] using h⟩

theorem requestFor?_of_help {known args : List String} {page : Page}
    {make : (String → Option String) → Option Command} (h : given? known [] args = some .help) :
    requestFor? known page make args = some (.page page) := by
  rw [requestFor?, h]
  rfl

/-- **What asks for a command** is its name and options for it, and with help among the options the
same name asks for the page about it. -/
theorem exists_given_of_ofArgs?_eq_run {args : List String} {c : Command}
    (h : Request.ofArgs? args = some (.run c)) :
    ∃ name rest opts, args = name :: rest ∧ given? c.known [] rest = some (.options opts)
      ∧ c.From opts
      ∧ ∀ rest', given? c.known [] rest' = some .help →
        Request.ofArgs? (name :: rest') = some (.page c.page) := by
  unfold Request.ofArgs? at h
  split at h
  case h_1 => exact absurd h nofun
  case h_2 rest =>
    obtain ⟨opts, hgiven, hmake⟩ := exists_given_of_requestFor?_eq_run h
    obtain ⟨input, hinput, ⟨⟩⟩ := Option.bind_eq_some_iff.1 hmake
    refine ⟨"derive", rest, opts, rfl, hgiven, ⟨hinput, rfl, rfl⟩, fun rest' hhelp => ?_⟩
    rw [Request.ofArgs?]
    exact requestFor?_of_help hhelp
  case h_3 rest =>
    obtain ⟨opts, hgiven, hmake⟩ := exists_given_of_requestFor?_eq_run h
    obtain ⟨input, hinput, ⟨⟩⟩ := Option.bind_eq_some_iff.1 hmake
    refine ⟨"names", rest, opts, rfl, hgiven, hinput, fun rest' hhelp => ?_⟩
    rw [Request.ofArgs?]
    exact requestFor?_of_help hhelp
  case h_4 rest =>
    obtain ⟨opts, hgiven, hmake⟩ := exists_given_of_requestFor?_eq_run h
    obtain ⟨input, hinput, ⟨⟩⟩ := Option.bind_eq_some_iff.1 hmake
    refine ⟨"fingerprint", rest, opts, rfl, hgiven, hinput, fun rest' hhelp => ?_⟩
    rw [Request.ofArgs?]
    exact requestFor?_of_help hhelp
  case h_5 =>
    obtain ⟨_, -, h⟩ := Option.bind_eq_some_iff.1 h
    exact absurd h nofun
  case h_6 =>
    -- What is left are requests for pages.
    split at h
    · exact absurd h nofun
    · split at h <;> exact absurd h nofun

/-- **Help comes before the command.** Arguments that ask for a command ask for the page about it
when a request for help stands behind them, whatever comes after it. -/
theorem ofArgs?_append_help {args : List String} {c : Command}
    (h : Request.ofArgs? args = some (.run c)) (hend : "--" ∉ args) (more : List String) :
    Request.ofArgs? (args ++ "--help" :: more) = some (.page c.page) := by
  obtain ⟨name, rest, opts, rfl, hgiven, -, hpage⟩ := exists_given_of_ofArgs?_eq_run h
  refine hpage _ (given?_append_help hgiven ?_ more)
  exact fun hmem => hend (List.mem_cons_of_mem _ hmem)

/-! ## Derivations that print -/

theorem snd_ne_empty_of_lookup {opts : List (String × String)} (h : ∀ o ∈ opts, o.2 ≠ "")
    {name value : String} (hvalue : opts.lookup name = some value) : value ≠ "" := by
  obtain ⟨before, after, rfl, -⟩ := List.lookup_eq_some_iff.1 hvalue
  exact h (name, value) (List.mem_append_right before List.mem_cons_self)

/-- The arguments for a derivation that prints its model. -/
def printArgs (input : String) (cachedNames : Option String) : List String :=
  "derive" :: spelled "in" input :: (cachedNames.map (spelled "cached-names")).toList

/-- A derivation that is asked for can be asked for without the file that it writes. -/
theorem ofArgs?_printArgs {args : List String} {input : String} {cachedNames out : Option String}
    (h : Request.ofArgs? args = some (.run (.derive input cachedNames out))) :
    Request.ofArgs? (printArgs input cachedNames)
      = some (.run (.derive input cachedNames none)) := by
  obtain ⟨_, _, opts, -, hgiven, ⟨hinput, rfl, -⟩, -⟩ := exists_given_of_ofArgs?_eq_run h
  have hopts : ∀ o ∈ opts, o.2 ≠ "" := ne_empty_of_given? hgiven (by simp)
  rw [printArgs, Request.ofArgs?, requestFor?,
    given?_spelled (by decide) (by decide) (by decide) (snd_ne_empty_of_lookup hopts hinput)]
  cases hcached : opts.lookup "cached-names" with
  | none => rfl
  | some path =>
      have hnew : "cached-names" ∉ ([] ++ [("in", input)]).map Prod.fst := by simp
      rw [Option.map_some, Option.toList_some, given?_spelled (by decide) (by decide) hnew
        (snd_ne_empty_of_lookup hopts hcached)]
      rfl

end ComponentSpec.CommandLine
