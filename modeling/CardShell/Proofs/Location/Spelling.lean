import CardShell.Location
import CardShell.Proofs.Text.Trimming

/-!
# Spellings of locations

Once its blanks are trimmed, a text has exactly one of six forms: a spelling for memory, a
path behind the scheme, the scheme alone, a text with some other scheme, no text at all, or
a bare path.  The form decides what is read.  A path behind the scheme is taken as it
stands, whatever it contains, and no form gives an empty path or the one path that is a
spelling for memory.
-/

namespace CardShell.Location

/-! ## The scheme -/

theorem occurs_iff {part text : List Char} : occurs part text = true ↔ part <:+: text := by
  induction text with
  | nil => simp [occurs]
  | cons character rest ih =>
      rw [occurs, Bool.or_eq_true, List.isPrefixOf_iff_prefix, ih, List.infix_cons_iff]

theorem stripScheme?_append (path : List Char) : stripScheme? (scheme ++ path) = some path := by
  rw [stripScheme?, if_pos (List.isPrefixOf_iff_prefix.mpr (List.prefix_append scheme path)),
    List.drop_left]

theorem stripScheme?_eq_none {uri : List Char} (other : ¬scheme <+: uri) :
    stripScheme? uri = none := by
  rw [stripScheme?, if_neg (mt List.isPrefixOf_iff_prefix.mp other)]

/-- A text that starts with the scheme has a scheme. -/
theorem colons_of_schemed {uri : List Char} (schemed : scheme <+: uri) :
    "://".toList <:+: uri := by
  have inside : "://".toList <:+: scheme := occurs_iff.mp rfl
  exact inside.trans schemed.isInfix

theorem toList_behindScheme (path : String) :
    ("sqlite:///" ++ path).toList = scheme ++ path.toList := by
  rw [String.toList_append]
  rfl

/-! ## Spellings for memory -/

theorem mem_memorySpellings_iff {uri : String} :
    uri ∈ memorySpellings ↔ uri = ":memory:" ∨ uri = "sqlite://" ∨ uri = "sqlite:///:memory:" := by
  simp [memorySpellings]

/-- A spelling for memory that starts with the scheme names the path of the bare one. -/
theorem behindScheme_mem_memorySpellings_iff {path : String} :
    "sqlite:///" ++ path ∈ memorySpellings ↔ path = ":memory:" := by
  rw [mem_memorySpellings_iff]
  constructor
  · rintro (bare | short | whole)
    · have heads := congrArg (fun text : String => text.toList.head?) bare
      simp at heads
    · have lengths := congrArg String.length short
      have longer : "sqlite://".length < "sqlite:///".length := by decide
      rw [String.length_append] at lengths
      omega
    · have cut : "sqlite:///:memory:" = "sqlite:///" ++ ":memory:" := rfl
      exact (String.append_right_inj _).mp (whole.trans cut)
  · rintro rfl
    exact .inr (.inr rfl)

/-- A text without a scheme spells memory in the bare way only. -/
theorem mem_memorySpellings_iff_of_bare {uri : String} (bare : ¬"://".toList <:+: uri.toList) :
    uri ∈ memorySpellings ↔ uri = ":memory:" := by
  rw [mem_memorySpellings_iff]
  constructor
  · rintro (spelled | rfl | rfl)
    · exact spelled
    · exact absurd (occurs_iff.mp rfl) bare
    · exact absurd (occurs_iff.mp rfl) bare
  · exact .inl

/-! ## Trimmed texts -/

/-- What a text without blanks at its ends is read as. -/
inductive Reads : String → Except ConfigError Location → Prop
  | memory {uri : String} : uri ∈ memorySpellings → Reads uri (.ok .memory)
  | behindScheme {path : String} : path ≠ "" → path ≠ ":memory:" →
      Reads ("sqlite:///" ++ path) (.ok (.file path))
  | schemeAlone : Reads "sqlite:///" (.error (.missingPath "sqlite:///"))
  | otherScheme {uri : String} : uri ∉ memorySpellings → ¬scheme <+: uri.toList →
      "://".toList <:+: uri.toList → Reads uri (.error (.unsupportedUri uri))
  | empty : Reads "" (.error .emptyUri)
  | bare {path : String} : path ≠ "" → path ≠ ":memory:" → ¬"://".toList <:+: path.toList →
      Reads path (.ok (.file path))

/-- A text that is no spelling for memory is read by its scheme. -/
theorem ofTrimmed_of_not_mem {uri : String} (unspelled : uri ∉ memorySpellings) :
    ofTrimmed uri.toList =
      match stripScheme? uri.toList with
      | some path =>
          if path.isEmpty then .error (.missingPath uri)
          else .ok (.file (String.ofList path))
      | none =>
          if occurs "://".toList uri.toList then .error (.unsupportedUri uri)
          else if uri.toList.isEmpty then .error .emptyUri
          else .ok (.file uri) := by
  rw [ofTrimmed, String.ofList_toList]
  exact if_neg (mt List.contains_iff_mem.mp unspelled)

/-- Every text has one of the forms. -/
theorem exists_reads (uri : String) : ∃ outcome, Reads uri outcome := by
  by_cases spelled : uri ∈ memorySpellings
  · exact ⟨_, .memory spelled⟩
  by_cases schemed : scheme <+: uri.toList
  · obtain ⟨path, shape⟩ := schemed
    obtain rfl : uri = "sqlite:///" ++ String.ofList path := by
      apply String.toList_injective
      rw [toList_behindScheme, String.toList_ofList, shape]
    by_cases alone : String.ofList path = ""
    · rw [alone]
      exact ⟨_, .schemeAlone⟩
    · exact ⟨_, .behindScheme alone (mt behindScheme_mem_memorySpellings_iff.mpr spelled)⟩
  by_cases colons : "://".toList <:+: uri.toList
  · exact ⟨_, .otherScheme spelled schemed colons⟩
  by_cases nothing : uri = ""
  · subst nothing
    exact ⟨_, .empty⟩
  · exact ⟨_, .bare nothing (mt (mem_memorySpellings_iff_of_bare colons).mpr spelled) colons⟩

/-- A text is read by its form. -/
theorem Reads.ofTrimmed_eq {uri : String} {outcome : Except ConfigError Location}
    (reads : Reads uri outcome) : ofTrimmed uri.toList = outcome := by
  cases reads with
  | memory spelled =>
      rw [ofTrimmed, String.ofList_toList, if_pos (List.contains_iff_mem.mpr spelled)]
  | @behindScheme path notEmpty notMemory =>
      have notNil : path.toList.isEmpty = false := by simpa using notEmpty
      rw [ofTrimmed_of_not_mem (mt behindScheme_mem_memorySpellings_iff.mp notMemory),
        toList_behindScheme, stripScheme?_append]
      simp only [notNil, Bool.false_eq_true, if_false, String.ofList_toList]
  | schemeAlone => rfl
  | otherScheme unspelled other colons =>
      rw [ofTrimmed_of_not_mem unspelled, stripScheme?_eq_none other]
      exact if_pos (occurs_iff.mpr colons)
  | empty => rfl
  | bare notEmpty notMemory bare =>
      have notNil : uri.toList.isEmpty = false := by simpa using notEmpty
      rw [ofTrimmed_of_not_mem (mt (mem_memorySpellings_iff_of_bare bare).mp notMemory),
        stripScheme?_eq_none (mt colons_of_schemed bare)]
      simp only [mt occurs_iff.mp bare, notNil, Bool.false_eq_true, if_false]

theorem ofTrimmed_eq_iff {uri : String} {outcome : Except ConfigError Location} :
    ofTrimmed uri.toList = outcome ↔ Reads uri outcome := by
  constructor
  · rintro rfl
    obtain ⟨outcome, reads⟩ := exists_reads uri
    rwa [reads.ofTrimmed_eq]
  · exact Reads.ofTrimmed_eq

/-! ## Outcomes -/

theorem reads_memory_iff {uri : String} :
    Reads uri (.ok .memory) ↔ uri ∈ memorySpellings := by
  constructor
  · rintro ⟨spelled⟩
    exact spelled
  · exact .memory

theorem reads_file_iff {uri path : String} :
    Reads uri (.ok (.file path)) ↔
      path ≠ "" ∧ path ≠ ":memory:" ∧
        (uri = "sqlite:///" ++ path ∨ uri = path ∧ ¬"://".toList <:+: path.toList) := by
  constructor
  · intro reads
    cases reads with
    | behindScheme notEmpty notMemory => exact ⟨notEmpty, notMemory, .inl rfl⟩
    | bare notEmpty notMemory bare => exact ⟨notEmpty, notMemory, .inr ⟨rfl, bare⟩⟩
  · rintro ⟨notEmpty, notMemory, rfl | ⟨rfl, bare⟩⟩
    · exact .behindScheme notEmpty notMemory
    · exact .bare notEmpty notMemory bare

theorem reads_error_iff {uri : String} {error : ConfigError} :
    Reads uri (.error error) ↔
      uri = "" ∧ error = .emptyUri ∨
      uri = "sqlite:///" ∧ error = .missingPath "sqlite:///" ∨
      ("://".toList <:+: uri.toList ∧ ¬"sqlite:///".toList <+: uri.toList ∧ uri ≠ "sqlite://") ∧
        error = .unsupportedUri uri := by
  constructor
  · intro reads
    cases reads with
    | schemeAlone => exact .inr (.inl ⟨rfl, rfl⟩)
    | otherScheme unspelled other colons =>
        refine .inr (.inr ⟨⟨colons, other, ?_⟩, rfl⟩)
        rintro rfl
        exact unspelled (mem_memorySpellings_iff.mpr (.inr (.inl rfl)))
    | empty => exact .inl ⟨rfl, rfl⟩
  · rintro (⟨rfl, rfl⟩ | ⟨rfl, rfl⟩ | ⟨⟨colons, other, notShort⟩, rfl⟩)
    · exact .empty
    · exact .schemeAlone
    · refine .otherScheme ?_ other colons
      rw [mem_memorySpellings_iff]
      rintro (rfl | short | rfl)
      · exact absurd (occurs_iff.mpr colons) (by decide)
      · exact notShort short
      · exact other (List.prefix_append scheme ":memory:".toList)

/-! ## Any texts -/

theorem ofUri_eq_iff {uri : String} {outcome : Except ConfigError Location} :
    ofUri uri = outcome ↔ Reads (Text.trimString uri) outcome := by
  rw [← ofTrimmed_eq_iff, Text.trimString, String.toList_ofList, ofUri]

theorem trimString_eq_self_iff {text : String} :
    Text.trimString text = text ↔ Text.Trimmed text.toList := by
  rw [Text.trimString, ← Text.trim_eq_self_iff, ← String.toList_inj, String.toList_ofList]

/-- Behind the scheme only the end of a path can be blank. -/
theorem trimmed_behindScheme {path : String}
    (ended : ∀ character ∈ path.toList.getLast?, Text.isBlank character = false) :
    Text.Trimmed ("sqlite:///" ++ path).toList := by
  rw [toList_behindScheme]
  constructor
  · rintro character ⟨⟩
    decide
  · intro character last
    rw [List.getLast?_append] at last
    cases final : path.toList.getLast? with
    | none =>
        rw [final] at last
        cases last
        decide
    | some other =>
        rw [final] at last
        cases last
        exact ended _ final

/-- What stands behind the scheme decides alone what is read. -/
theorem ofUri_behindScheme {path : String}
    (ended : ∀ character ∈ path.toList.getLast?, Text.isBlank character = false) :
    ofUri ("sqlite:///" ++ path) =
      if path = "" then .error (.missingPath "sqlite:///")
      else if path = ":memory:" then .ok .memory
      else .ok (.file path) := by
  rw [ofUri_eq_iff, trimString_eq_self_iff.mpr (trimmed_behindScheme ended)]
  split
  · rename_i nothing
    rw [nothing]
    exact .schemeAlone
  · rename_i notEmpty
    split
    · rename_i memory
      exact .memory (behindScheme_mem_memorySpellings_iff.mpr memory)
    · rename_i notMemory
      exact .behindScheme notEmpty notMemory

/-- The path that was written behind the scheme, from what it was read as. -/
def pathRead : Except ConfigError Location → String
  | .ok .memory => ":memory:"
  | .ok (.file path) => path
  | .error _ => ""

theorem pathRead_ofUri_behindScheme {path : String}
    (ended : ∀ character ∈ path.toList.getLast?, Text.isBlank character = false) :
    pathRead (ofUri ("sqlite:///" ++ path)) = path := by
  rw [ofUri_behindScheme ended]
  split
  · rename_i nothing
    exact nothing.symm
  · split
    · rename_i memory
      exact memory.symm
    · rfl

/-- A text is read as the location that its trimmed form spells, and blanks around it do
not count.  Memory has three spellings.  A path behind the scheme is taken as it stands,
with blanks in front and with further schemes inside, unless it is empty or the bare
spelling for memory; a path without a scheme is taken if it is neither of these.  Every file
comes about in one of these two ways, so no file has an empty path or that spelling as its
path, and different paths behind the scheme give different results.  All other texts are
refused: the empty one, the scheme alone, and those with another scheme. -/
theorem location_is_spelled :
    (∀ uri, ofUri (Text.trimString uri) = ofUri uri) ∧
    (∀ uri, ofUri uri = .ok .memory ↔
      Text.trimString uri ∈ [":memory:", "sqlite://", "sqlite:///:memory:"]) ∧
    (∀ path : String, path ≠ "" → path ≠ ":memory:" →
      (∀ character ∈ path.toList.getLast?, Text.isBlank character = false) →
      ofUri ("sqlite:///" ++ path) = .ok (.file path)) ∧
    (∀ path : String, path ≠ "" → path ≠ ":memory:" → Text.Trimmed path.toList →
      ¬"://".toList <:+: path.toList → ofUri path = .ok (.file path)) ∧
    (∀ uri path, ofUri uri = .ok (.file path) →
      path ≠ "" ∧ path ≠ ":memory:" ∧
      (∀ character ∈ path.toList.getLast?, Text.isBlank character = false) ∧
      (Text.trimString uri = "sqlite:///" ++ path ∨
        Text.trimString uri = path ∧ ¬"://".toList <:+: path.toList)) ∧
    (∀ uri error, ofUri uri = .error error ↔
      Text.trimString uri = "" ∧ error = .emptyUri ∨
      Text.trimString uri = "sqlite:///" ∧ error = .missingPath "sqlite:///" ∨
      ("://".toList <:+: (Text.trimString uri).toList ∧
        ¬"sqlite:///".toList <+: (Text.trimString uri).toList ∧
        Text.trimString uri ≠ "sqlite://") ∧ error = .unsupportedUri (Text.trimString uri)) ∧
    ∀ first second : String,
      (∀ character ∈ first.toList.getLast?, Text.isBlank character = false) →
      (∀ character ∈ second.toList.getLast?, Text.isBlank character = false) →
      ofUri ("sqlite:///" ++ first) = ofUri ("sqlite:///" ++ second) → first = second := by
  refine ⟨?_, ?_, ?_, ?_, ?_, ?_, ?_⟩
  · intro uri
    rw [ofUri, ofUri, Text.trimString, String.toList_ofList,
      Text.trim_of_trimmed (Text.trimmed_trim uri.toList)]
  · intro uri
    exact ofUri_eq_iff.trans reads_memory_iff
  · intro path notEmpty notMemory ended
    rw [ofUri_behindScheme ended, if_neg notEmpty, if_neg notMemory]
  · intro path notEmpty notMemory trimmed bare
    rw [ofUri_eq_iff, trimString_eq_self_iff.mpr trimmed]
    exact .bare notEmpty notMemory bare
  · intro uri path read
    obtain ⟨notEmpty, notMemory, spelled⟩ := reads_file_iff.mp (ofUri_eq_iff.mp read)
    have trimmed := Text.trimmed_trim uri.toList
    rw [← String.toList_ofList (l := Text.trim uri.toList), ← Text.trimString] at trimmed
    refine ⟨notEmpty, notMemory, ?_, spelled⟩
    intro character last
    apply trimmed.2 character
    rcases spelled with behind | ⟨bare, -⟩
    · rw [behind, toList_behindScheme, List.getLast?_append, Option.mem_def.mp last,
        Option.some_or]
      rfl
    · rwa [bare]
  · intro uri error
    exact ofUri_eq_iff.trans reads_error_iff
  · intro first second firstEnded secondEnded same
    rw [← pathRead_ofUri_behindScheme firstEnded, same, pathRead_ofUri_behindScheme secondEnded]

/-- A path with a blank in front and a scheme inside, an absolute path between blanks, a
bare path, and texts that come close to these. -/
theorem locations_of_odd_texts :
    ofUri ("sqlite:///" ++ " /db://x") = .ok (.file " /db://x") ∧
    ofUri "\u00a0sqlite:////all.sqlite\t" = .ok (.file "/all.sqlite") ∧
    ofUri "a:/ /b" = .ok (.file "a:/ /b") ∧
    (∀ path, ofUri " sqlite:///:memory:" ≠ .ok (.file path)) ∧
    ofUri "sqlite://host" = .error (.unsupportedUri "sqlite://host") ∧
    ofUri "sqlite:/// " = .error (.missingPath "sqlite:///") ∧
    ofUri ("sqlite:///" ++ "x") ≠ ofUri ("sqlite:///" ++ "/x") := by
  obtain ⟨trimmed, memory, behind, bare, -, refused, apart⟩ := location_is_spelled
  have colons : "://".toList <:+: "sqlite://host".toList := occurs_iff.mp rfl
  have noColons : ¬"://".toList <:+: "a:/ /b".toList := mt occurs_iff.mpr (by decide)
  have otherScheme : ¬"sqlite:///".toList <+: "sqlite://host".toList :=
    mt List.isPrefixOf_iff_prefix.mpr (by decide)
  have ended {path : String} {last : Char} (final : path.toList.getLast? = some last)
      (visible : Text.isBlank last = false) :
      ∀ character ∈ path.toList.getLast?, Text.isBlank character = false := by
    rw [final]
    rintro character ⟨⟩
    exact visible
  have lastOfDb : " /db://x".toList.getLast? = some 'x' := rfl
  have lastOfAll : "/all.sqlite".toList.getLast? = some 'e' := rfl
  have lastOfShort : "x".toList.getLast? = some 'x' := rfl
  have lastOfRoot : "/x".toList.getLast? = some 'x' := rfl
  refine ⟨?_, ?_, ?_, ?_, ?_, ?_, ?_⟩
  · exact behind " /db://x" (by decide) (by decide) (ended lastOfDb (by decide))
  · rw [← trimmed]
    exact behind "/all.sqlite" (by decide) (by decide)
      (ended lastOfAll (by decide))
  · exact bare "a:/ /b" (by decide) (by decide)
      (Text.trim_eq_self_iff.mp rfl) noColons
  · intro path
    rw [(memory " sqlite:///:memory:").mpr (by decide)]
    exact nofun
  · exact (refused "sqlite://host" _).mpr
      (.inr (.inr ⟨⟨colons, otherScheme, by decide⟩, rfl⟩))
  · exact (refused "sqlite:/// " _).mpr (.inr (.inl ⟨rfl, rfl⟩))
  · intro same
    have short := ended lastOfShort (by decide)
    have root := ended lastOfRoot (by decide)
    exact absurd (apart "x" "/x" short root same) (by decide)

end CardShell.Location
