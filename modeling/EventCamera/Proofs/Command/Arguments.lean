import EventCamera.Command.Invocation
import EventCamera.Proofs.Text.Trim

/-!
# Orders of columns as arguments

Whatever text names an order of columns, it can be given on the command line behind the other
arguments, as it is no option itself.

## Main definitions

* `Command.Grammar.LeavesOpen` — arguments behind which an option can be given

## Main results

* `Command.Grammar.LeavesOpen.scan_append` — the option is given behind them
* `FieldOrder.isWord_of_parse` — a text that names an order can be the value of an option
* `Invocation.parse_encode`, `Invocation.parse_decode` — commands with an order of columns
-/

namespace EventCamera

/-! ### Options behind other arguments -/

namespace Command

variable {α : Type}

/-- The arguments are taken and come to the settings. The option is not among them, and it can be
given behind them. -/
def Grammar.LeavesOpen (g : Grammar α) (option : String) (start : α) (args : List String)
    (settings : α) : Prop :=
  ∃ given, option ∉ given ∧ g.scan start args = .ok { settings, operands := [], given }

namespace Grammar.LeavesOpen

variable {g : Grammar α} {option : String} {start settings : α} {args : List String}

/-- All arguments have been taken, and no operand is missing. -/
theorem foldlM_step (h : g.LeavesOpen option start args settings) :
    ∃ given, option ∉ given ∧
      args.foldlM (Scan.step g.switches) { settings := start, operands := g.operands } =
        .ok { settings, operands := [], given } := by
  obtain ⟨given, hgiven, hscan⟩ := h
  refine ⟨given, hgiven, ?_⟩
  rw [Grammar.scan] at hscan
  split at hscan
  · cases hscan
  · rename_i s hfold
    rw [hfold]
    rw [Scan.finish] at hscan
    split at hscan
    · cases hscan
    · cases hscan
    · exact hscan

/-- An option is given by its name and a value behind the arguments that leave it open. -/
theorem scan_append (h : g.LeavesOpen option start args settings) {o : Switch α} {name : String}
    {set : String → Option (α → α)}
    (hfind : g.switches.find? (fun o => o.long.toList = option.toList) = some o)
    (heffect : o.effect = .value name set) (hne : option.toList ≠ [])
    (hequals : '=' ∉ option.toList) {value : String} (hword : isWord value = true)
    {change : α → α} (hset : set value = some change) :
    ∃ s, g.scan start (args ++ ["--" ++ option, value]) = .ok s ∧
      s.settings = change settings := by
  obtain ⟨given, hgiven, hfold⟩ := h.foldlM_step
  have hlong : o.long = option := by
    have := List.find?_some hfind
    exact String.toList_inj.1 (of_decide_eq_true this)
  have hdue : Scan.step g.switches { settings, operands := [], given } ("--" ++ option) =
      .ok { settings, operands := [], given, expecting := .value o set } := by
    obtain ⟨c, cs, hcs⟩ := List.exists_cons_of_ne_nil hne
    have htext : ("--" ++ option).toList = '-' :: '-' :: c :: cs := by
      rw [String.toList_append, hcs]
      rfl
    have hstep : Scan.step g.switches { settings, operands := [], given } ("--" ++ option) =
        Scan.long g.switches { settings, operands := [], given } option.toList := by
      rw [Scan.step, htext, hcs]
      rfl
    unfold Scan.long at hstep
    rw [hstep, Text.cut_eq_none_iff.2 hequals]
    dsimp only
    rw [hfind]
    dsimp only
    rw [heffect]
  have hgive : Scan.step g.switches
      { settings, operands := [], given, expecting := .value o set } value =
        .ok { settings := change settings, operands := [], given := option :: given } := by
    rw [Scan.step]
    dsimp only
    unfold Scan.give
    rw [if_pos hword, hlong, if_neg hgiven, hset]
  refine ⟨{ settings := change settings, operands := [], given := option :: given }, ?_, rfl⟩
  rw [Grammar.scan, List.foldlM_append, hfold]
  simp only [List.foldlM_cons, List.foldlM_nil, bind, Except.bind, hdue, hgive]
  rfl

end Grammar.LeavesOpen

end Command

/-! ### Texts that name orders -/

theorem Text.isPrefix_lowerFrom (lowered : Array Char) (before cs : List Char) :
    lowered.toList <+: (lowerFrom lowered before cs).toList := by
  induction cs generalizing lowered before with
  | nil => exact List.prefix_rfl
  | cons c cs ih =>
    rw [lowerFrom]
    refine .trans ?_ (ih _ _)
    rw [Array.toList_appendList]
    exact List.prefix_append _ _

/-- A hyphen in front of a text stays there when blanks are taken off and the case changes. -/
theorem Text.exists_lower_trim_hyphen (cs : List Char) :
    ∃ more, lower (trim ('-' :: cs)) = '-' :: more := by
  have hblank : isBlank '-' = false := by decide
  rw [trim_cons_of_not_blank hblank, trimEnd_cons_of_not_blank hblank]
  obtain ⟨more, hmore⟩ := isPrefix_lowerFrom #['-'] ['-'] (trimEnd cs)
  exact ⟨more, hmore.symm⟩

theorem EventField.ofName?_hyphen (more : List Char) :
    ofName? (String.ofList ('-' :: more)) = none := by
  unfold ofName?
  split
  case h_9 => rfl
  -- No other case names a field that begins with a hyphen.
  all_goals
    rename_i hname
    rw [← String.toList_inj, String.toList_ofList] at hname
    exact absurd (List.cons.inj hname).1 (by decide)

/-- A text that names an order does not look like an option. -/
theorem FieldOrder.isWord_of_parse {text : String} {order : FieldOrder}
    (h : parse text = .ok order) : Command.isWord text = true := by
  rw [Command.isWord]
  split
  · rename_i c cs htext
    -- The name of the first column would have to begin with a hyphen.
    obtain ⟨part, parts, hparts⟩ := List.exists_cons_of_ne_nil (Text.fields_ne_nil ',' (c :: cs))
    obtain ⟨more, hmore⟩ := Text.exists_lower_trim_hyphen part
    have hfields := Text.fields_cons_of_ne (by decide : '-' ≠ ',') hparts
    rw [parse] at h
    dsimp only at h
    split at h
    · split at h
      · cases h
      · rename_i hcolumns
        rw [htext, hfields, List.map_cons, hmore, readColumns,
          EventField.ofName?_hyphen] at hcolumns
        cases hcolumns
    · cases h
  · rfl

/-! ### Commands with an order -/

namespace Invocation

open Command

variable {args : List String} {text : String} {order : FieldOrder}

/-- The arguments of a command with an order of columns behind them. -/
theorem ofGrammar_order {α : Type} {g : Grammar α} {start settings : α} {task : α → Task}
    (h : g.LeavesOpen "order" start args settings) {o : Switch α} {name : String}
    {setOrder : FieldOrder → α → α}
    (hfind : g.switches.find? (fun o => o.long.toList = "order".toList) = some o)
    (heffect : o.effect = .value name fun v => (FieldOrder.parse v).toOption.map setOrder)
    (horder : FieldOrder.parse text = .ok order) :
    ∃ verbose, ofGrammar g start task false (args ++ ["--order", text]) =
      some (.run verbose (task (setOrder order settings))) := by
  have hset : (FieldOrder.parse text).toOption.map setOrder = some (setOrder order) := by
    rw [horder]
    rfl
  obtain ⟨s, hscan, hsettings⟩ := h.scan_append hfind heffect (by decide) (by decide)
    (FieldOrder.isWord_of_parse horder) hset
  refine ⟨s.given.contains "verbose", ?_⟩
  rw [ofGrammar, show ["--order", text] = ["--" ++ "order", text] from rfl, hscan, ← hsettings]
  rfl

/-- A table is made into a recording: its columns are in the order that a text names. -/
theorem parse_encode {a : EncodeArguments} (h : encodeGrammar.LeavesOpen "order" {} args a)
    (horder : FieldOrder.parse text = .ok order) :
    ∃ verbose, parse ("encode" :: (args ++ ["--order", text])) =
      some (.run verbose (.encode { a with order })) :=
  ofGrammar_order h rfl rfl horder

/-- A recording is made into a table: its columns are in the order that a text names. -/
theorem parse_decode {a : DecodeArguments} (h : decodeGrammar.LeavesOpen "order" {} args a)
    (horder : FieldOrder.parse text = .ok order) :
    ∃ verbose, parse ("decode" :: (args ++ ["--order", text])) =
      some (.run verbose (.decode { a with order })) :=
  ofGrammar_order h rfl rfl horder

end Invocation

end EventCamera
