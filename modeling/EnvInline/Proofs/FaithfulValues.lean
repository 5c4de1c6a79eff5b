import EnvInline.Command.Run
import EnvInline.Proofs.SingleEntry

/-!
# Values that survive any neighbour

Whether a value is read back can depend on the entries behind it. Values of the class `Faithful` are
read back whatever stands around them, and nothing that is written for them looks like a malformed
line.

* `kept_of_faithful` — such a value is kept in front of any text;
* `roles_written` — what is written for kept values holds assignments, their further lines and the
  empty line at the end;
* `printed_reads_back` — a printed mapping of such values is read back, and no line is skipped.
-/

namespace EnvInline.Definition

open EnvInline.Text Quoted

/-- The value does not end in an odd run of backslashes. It suits single quotes or backticks, or it
holds nothing that double quotes would change or end at. -/
def Faithful (value : List Char) : Prop :=
  ¬ EndsEscaped value ∧
    ('\r' ∉ value ∧ ('\'' ∉ value ∨ '`' ∉ value) ∨
      ¬ ['\\', 'n'] <:+: value ∧ ¬ ['\\', 'r'] <:+: value ∧ AllEscaped '"' value)

/-! ## One value -/

instance (value : List Char) : Decidable (Faithful value) :=
  inferInstanceAs (Decidable (_ ∧ _))

/-- A faithful value is kept in front of any text. -/
theorem kept_of_faithful {value : List Char} (h : Faithful value) (later : List Char) :
    Kept value later := by
  obtain ⟨hlast, hsuits⟩ := h
  exact (kept_iff_alone value later).mpr
    ⟨(kept_nil_iff value).mpr hsuits, fun hends => (hlast hends).elim⟩

/-! ## All lines -/

theorem malformedLines_eq_nil {rs : List Role} (h : .malformed ∉ rs) (n : Nat) :
    malformedLines n rs = [] := by
  rw [List.eq_nil_iff_forall_not_mem]
  intro k hk
  obtain ⟨i, hi, -⟩ := mem_malformedLines.mp hk
  exact h (List.mem_of_getElem? hi)

/-- The lines of an entry whose value is kept, and then those of the others. -/
theorem roles_written_cons {name value : String} (hname : IsName name)
    {ps : List (String × String)} (h : Kept value.toList (written ps)) :
    ∃ n, roles 0 (splitLines (written ((name, value) :: ps))) =
      .assignment name value :: (List.replicate n .continuation ++
        roles 0 (splitLines (written ps))) := by
  have hne : name.toList ≠ [] := fun hnil => hname.1 (String.toList_eq_nil_iff.mp hnil)
  obtain ⟨l, rest, hl, hsplit, hfirst, htext⟩ := exists_first_line hname value ps
  have hread := readLine_name hne (fun c => hname.isNameChar)
    (quoteOf value.toList :: l) (splitLines rest)
  rw [(readValue_written_iff hl hsplit).mpr h, String.ofList_toList, String.ofList_toList] at hread
  have hlater := drop_of_kept hl hsplit h
  generalize (readValue (quoteOf value.toList :: l) (splitLines rest)).2 = used at hread hlater
  refine ⟨min used (splitLines rest).length, ?_⟩
  rw [htext, roles_newline hfirst, hread, roles_eq, hlater]

/-- No line that is written for kept values is malformed. -/
theorem roles_written {ps : List (String × String)} (hnames : ∀ p ∈ ps, IsName p.1)
    (h : AllKept ps) : .malformed ∉ roles 0 (splitLines (written ps)) := by
  induction ps with
  | nil => decide
  | cons p ps ih =>
    obtain ⟨name, value⟩ := p
    obtain ⟨hkept, hothers⟩ := allKept_cons.mp h
    obtain ⟨n, hroles⟩ := roles_written_cons (hnames _ List.mem_cons_self) hkept
    have hlater := ih (fun p hp => hnames p (List.mem_cons_of_mem _ hp)) hothers
    rw [hroles, List.mem_cons, List.mem_append, List.mem_replicate]
    rintro (hfirst | ⟨-, hcontinued⟩ | hmem)
    · cases hfirst
    · cases hcontinued
    · exact hlater hmem

/-- Entries whose values are kept are read back in their order, and no line is skipped. -/
theorem readLines_written {ps : List (String × String)} (hnames : ∀ p ∈ ps, IsName p.1)
    (h : AllKept ps) : readLines (splitLines (written ps)) = ⟨.ofList ps, []⟩ := by
  have hentries : assignments (roles 0 (splitLines (written ps))) = ps :=
    assigned_written_of_allKept hnames h
  have hskipped := malformedLines_eq_nil (roles_written hnames h) 1
  simp only [readLines, hentries, hskipped]

/-- A mapping of faithful values that a run prints as a definition file is read back as it is, and
no line of it is skipped. -/
theorem printed_reads_back (pass : Pass) (cwd : Path) (now : Int) (d : Disk)
    (hnames : ∀ p ∈ pass.resolution.values.toList, IsName p.1)
    (hvalues : ∀ p ∈ pass.resolution.values.toList, Faithful p.2.toList) :
    let outcome := ((Command.perform pass (.resolve .dotenv)).run cwd now d).1
    outcome.exitCode = 0 ∧ read outcome.printed = ⟨pass.resolution.values, []⟩ := by
  intro outcome
  refine ⟨rfl, ?_⟩
  have hprinted : outcome.printed = write pass.resolution.values := rfl
  have hkept : AllKept pass.resolution.values.toList := by
    intro before name value later hsplit
    have hmem : (name, value) ∈ pass.resolution.values.toList := by simp [hsplit]
    exact kept_of_faithful (hvalues _ hmem) _
  rw [hprinted, read, toList_write, normalizeBreaks_of_notMem (return_notMem_written hnames),
    readLines_written hnames hkept, Mapping.ofList_toList]

/-- One value for each kind of quotes. The first has lines of its own that look like a comment and
like an assignment which opens a quote, the second holds all three quotes and both line breaks, and
the third ends in two backslashes. -/
theorem printed_reads_back_quotes :
    let m := ((Mapping.empty.insert "A" "it's\n#x\nB='y").insert "B" "\\\"'`\r\n#").insert "C"
      "x\\\\"
    let pass : Pass := ⟨.default, ⟨"qa", .of ⟨".env"⟩ "qa", m, ⟨[]⟩⟩⟩
    let outcome := ((Command.perform pass (.resolve .dotenv)).run ⟨"/w"⟩ 0 .empty).1
    (∀ p ∈ m.toList, IsName p.1) ∧ (∀ p ∈ m.toList, Faithful p.2.toList) ∧
      outcome.printed = "A=`it's\n#x\nB='y`\nB=\"\\\"'`\\r\\n#\"\nC='x\\\\'\n" ∧
      outcome.exitCode = 0 ∧ read outcome.printed = ⟨m, []⟩ := by
  intro m pass outcome
  have hnames : ∀ p ∈ m.toList, IsName p.1 := by decide +kernel
  have hvalues : ∀ p ∈ m.toList, Faithful p.2.toList := by decide +kernel
  have hprinted : outcome.printed =
      "A=`it's\n#x\nB='y`\nB=\"\\\"'`\\r\\n#\"\nC='x\\\\'\n" := by decide +kernel
  exact ⟨hnames, hvalues, hprinted, printed_reads_back pass ⟨"/w"⟩ 0 .empty hnames hvalues⟩

end EnvInline.Definition
