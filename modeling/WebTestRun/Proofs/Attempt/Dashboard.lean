import WebTestRun.Attempt.Basic
import WebTestRun.Proofs.Diff.Page
import WebTestRun.Proofs.Text.Percent

/-!
# Links to the dashboard

The summary of a regression links to the page of the dashboard that shows the results of its test.
The name of the test is a component of the URL, from which it can be read back. Nothing in a name
can end the component, the URL or the link.

* `Diff.unended` — the tag that a page ends within, and `pieces_append` — one page after another.
* `Attempt.links` — the URLs that a page links to, and `links_of_summary`.
* `Attempt.dashboard_identifies` — what the link of a test says.
-/

set_option autoImplicit false

namespace WebTestRun

/-! ## Pages put together -/

namespace Diff

/-- The tag that has not ended where a page ends, the last character first. The argument holds the
tag that has not ended before. -/
def unended (tag : List Char) : List Char → List Char
  | [] => tag
  | c :: s =>
    if tag.isEmpty then
      if c = '<' then unended [c] s else unended [] s
    else if c = '>' then unended [] s
    else unended (c :: tag) s

theorem piecesFrom_append {tag s : List Char} (h : unended tag s = []) (t : List Char) :
    piecesFrom tag (s ++ t) = piecesFrom tag s ++ pieces t := by
  induction s generalizing tag with
  | nil =>
    obtain rfl : tag = [] := h
    rfl
  | cons c s ih =>
    rw [unended] at h
    rw [List.cons_append, piecesFrom, piecesFrom]
    split at h
    · rename_i hempty
      rw [if_pos hempty, if_pos hempty]
      split at h
      · rename_i hopens
        rw [if_pos hopens, if_pos hopens, ih h]
      · rename_i hopens
        rw [if_neg hopens, if_neg hopens, ih h, List.cons_append]
    · rename_i hempty
      rw [if_neg hempty, if_neg hempty]
      split at h
      · rename_i hends
        rw [if_pos hends, if_pos hends, ih h, List.cons_append]
      · rename_i hends
        rw [if_neg hends, if_neg hends, ih h]

/-- The pieces of a page at whose end no tag is open come before those of what follows. -/
theorem pieces_append {s : List Char} (h : unended [] s = []) (t : List Char) :
    pieces (s ++ t) = pieces s ++ pieces t :=
  piecesFrom_append h t

end Diff

namespace Attempt

/-! ## Links -/

/-- What the tag of a link starts with. -/
def linkStart : String := "<a href=\""

/-- The tag of a link to a URL. -/
def linkTag (url : String) : String := linkStart ++ url ++ "\">"

/-- The URL that a tag links to: it ends at the first quote. -/
def target? : Diff.Piece → Option String
  | .tag text =>
    (linkStart.toList.isPrefixOf? text).bind fun rest ↦
      (Text.cutOnce ['"'] rest).map fun cut ↦ String.ofList cut.1
  | .char _ => none

/-- The URLs that a page links to. -/
def links (page : String) : List String := (Diff.pieces page.toList).filterMap target?

/-- Markup without links, in which every tag ends, adds no link to a page. -/
theorem links_markup_append {markup : List Char} (hended : Diff.unended [] markup = [])
    (hnone : (Diff.pieces markup).filterMap target? = []) (more : String) :
    links (String.ofList markup ++ more) = links more := by
  rw [links, String.toList_append, String.toList_ofList, Diff.pieces_append hended,
    List.filterMap_append, hnone, List.nil_append, links]

/-- **A URL without quotes and angle brackets cannot leave its link.** -/
theorem links_linkTag_append {url : String} (hquote : '"' ∉ url.toList) (hangle : '>' ∉ url.toList)
    (more : String) : links (linkTag url ++ more) = url :: links more := by
  have htag : (linkTag url).toList = linkStart.toList ++ (url.toList ++ ['"', '>']) := by
    simp [linkTag]
  have hisTag : Diff.IsTag (linkTag url).toList := by
    refine ⟨"a href=\"".toList ++ url.toList ++ ['"'], ?_, ?_⟩
    · rw [htag, linkStart]
      simp
    · simpa using hangle
  have htarget : target? (.tag (linkTag url).toList) = some url := by
    have hcut : Text.cutOnce ['"'] (url.toList ++ '"' :: ['>']) = some (url.toList, ['>']) :=
      Text.cutOnce_append hquote [] ['>']
    rw [target?, htag, Text.isPrefixOf?_append, Option.bind_some, hcut, Option.map_some,
      String.ofList_toList]
  rw [links, String.toList_append, Diff.pieces_append_of_isTag hisTag,
    List.filterMap_cons_some htarget, links]

/-! ## The dashboard -/

/-- What the URL of the dashboard has before a test. -/
def dashboardBase : String := "https://wpt.fyi/results/"

/-- What the URL of the dashboard has after a test, without the question mark. -/
def dashboardQuery : String := "label=experimental&label=master&aligned"

/-- The URL of the dashboard for a test, by its name among the public tests. -/
def dashboardUrl (test : String) : String :=
  dashboardBase ++ Text.formEncode test ++ ("?" ++ dashboardQuery)

theorem dashboardUrl?_public (test : String) :
    dashboardUrl? (TestName.publicPrefix ++ test) = some (dashboardUrl test) := by
  have hquery : "?" ++ dashboardQuery = "?label=experimental&label=master&aligned" := by
    decide +kernel
  rw [dashboardUrl?, Text.dropPrefix?_append, Option.map_some, dashboardUrl, hquery, dashboardBase]

theorem notMem_formEncode {c : Char} (h : ¬Text.IsComponentChar c) (test : String) :
    c ∉ (Text.formEncode test).toList :=
  fun hc ↦ h (Text.isComponentChar_of_mem_formEncode hc)

theorem notMem_dashboardUrl {c : Char} (h : ¬Text.IsComponentChar c)
    (hbase : c ∉ dashboardBase.toList) (hquery : c ∉ ("?" ++ dashboardQuery).toList)
    (test : String) : c ∉ (dashboardUrl test).toList := by
  rw [dashboardUrl, String.toList_append, String.toList_append]
  simp only [List.mem_append, not_or]
  exact ⟨⟨hbase, notMem_formEncode h test⟩, hquery⟩

/-! ## The summary -/

/-- What every summary starts with. -/
def instructions : String :=
  "<p><strong>This WPT was run against <code>chrome</code> using " ++
    s!"<code>chromedriver</code>. See <a href=\"{instructionsUrl}\">these " ++
    "instructions</a> about running these tests locally and triaging failures.</strong></p>"

/-- The paragraph with the link to a URL of the dashboard. -/
def dashboardSection (url : String) : String :=
  s!"<p><a href=\"{url}\">Latest wpt.fyi results</a></p>"

/-- The logs that a summary shows. -/
def logSections (a : Attempt) : List String :=
  (["stderr", "crash_log"].filter a.artifacts.contains).map artifactSection

variable {a : Attempt} {test : String}

theorem summary?_public (hname : a.name = TestName.publicPrefix ++ test)
    (hregression : a.isRegression = true) :
    a.summary? = some (instructions ++ dashboardSection (dashboardUrl test) ++
      String.join a.logSections) := by
  rw [summary?, if_pos hregression, hname, dashboardUrl?_public]
  dsimp only [instructions, dashboardSection, logSections]

theorem links_instructions_append (more : String) :
    links (instructions ++ more) = instructionsUrl :: links more := by
  have hopen : "<code>chromedriver</code>. See <a href=\"" =
      "<code>chromedriver</code>. See " ++ linkStart := by decide +kernel
  have hclose : "\">these " = "\">" ++ "these " := by decide +kernel
  have hparts : instructions ++ more =
      "<p><strong>This WPT was run against <code>chrome</code> using " ++
        ("<code>chromedriver</code>. See " ++ (linkTag instructionsUrl ++ ("these " ++
          ("instructions</a> about running these tests locally and triaging failures.</strong></p>" ++
            more)))) := by
    rw [show instructions = "<p><strong>This WPT was run against <code>chrome</code> using " ++
      ("<code>chromedriver</code>. See <a href=\"" ++ instructionsUrl ++ "\">these ") ++
      "instructions</a> about running these tests locally and triaging failures.</strong></p>"
      from rfl, hopen, hclose, linkTag]
    simp only [String.append_assoc]
  have hquote : '"' ∉ instructionsUrl.toList := by decide +kernel
  have hangle : '>' ∉ instructionsUrl.toList := by decide +kernel
  rw [hparts, links_markup_append (by decide +kernel) (by decide +kernel),
    links_markup_append (by decide +kernel) (by decide +kernel),
    links_linkTag_append hquote hangle, links_markup_append (by decide +kernel) (by decide +kernel),
    links_markup_append (by decide +kernel) (by decide +kernel)]

theorem links_dashboardSection_append {url : String} (hquote : '"' ∉ url.toList)
    (hangle : '>' ∉ url.toList) (more : String) :
    links (dashboardSection url ++ more) = url :: links more := by
  have hopen : "<p><a href=\"" = "<p>" ++ linkStart := by decide +kernel
  have hclose : "\">Latest wpt.fyi results</a></p>" =
      "\">" ++ "Latest wpt.fyi results</a></p>" := by
    decide +kernel
  have hparts : dashboardSection url ++ more =
      "<p>" ++ (linkTag url ++ ("Latest wpt.fyi results</a></p>" ++ more)) := by
    rw [show dashboardSection url = "<p><a href=\"" ++ url ++ "\">Latest wpt.fyi results</a></p>"
      from rfl, hopen, hclose, linkTag]
    simp only [String.append_assoc]
  rw [hparts, links_markup_append (by decide +kernel) (by decide +kernel),
    links_linkTag_append hquote hangle, links_markup_append (by decide +kernel) (by decide +kernel)]

theorem links_logSections (a : Attempt) : links (String.join a.logSections) = [] := by
  have hmarkup : ∀ id ∈ ["stderr", "crash_log"],
      Diff.unended [] (artifactSection id).toList = [] ∧
        (Diff.pieces (artifactSection id).toList).filterMap target? = [] := by decide +kernel
  have hjoin (ids : List String) (hids : ids ⊆ ["stderr", "crash_log"]) :
      links (String.join (ids.map artifactSection)) = [] := by
    induction ids with
    | nil => decide +kernel
    | cons id ids ih =>
      obtain ⟨hended, hnone⟩ := hmarkup id (hids List.mem_cons_self)
      have hrest := ih fun other hother ↦ hids (List.mem_cons_of_mem id hother)
      rw [List.map_cons, String.join_cons]
      calc links (artifactSection id ++ String.join (ids.map artifactSection))
          = links (String.ofList (artifactSection id).toList ++
              String.join (ids.map artifactSection)) := by rw [String.ofList_toList]
        _ = links (String.join (ids.map artifactSection)) := links_markup_append hended hnone _
        _ = [] := hrest
  exact hjoin _ (List.filter_subset_self _)

/-- **The summary of a regression has two links**, one to the instructions and one to the dashboard,
whatever the name of the test is. -/
theorem links_of_summary (hname : a.name = TestName.publicPrefix ++ test)
    (hregression : a.isRegression = true) :
    a.summary?.map links = some [instructionsUrl, dashboardUrl test] := by
  have hquote : '"' ∉ (dashboardUrl test).toList :=
    notMem_dashboardUrl (by decide) (by decide) (by decide +kernel) test
  have hangle : '>' ∉ (dashboardUrl test).toList :=
    notMem_dashboardUrl (by decide) (by decide) (by decide +kernel) test
  rw [summary?_public hname hregression, Option.map_some, String.append_assoc,
    links_instructions_append, links_dashboardSection_append hquote hangle, links_logSections]

/-! ## The link of a test -/

/-- The name of a test is all that the URL of the dashboard says of it. -/
theorem dashboardUrl_injective {test other : String} (h : dashboardUrl other = dashboardUrl test) :
    other = test := by
  rw [dashboardUrl, dashboardUrl, String.append_left_inj, String.append_right_inj] at h
  have hread := Text.formDecode?_formEncode other
  rw [h, Text.formDecode?_formEncode, Option.some.injEq] at hread
  exact hread.symm

/-- The query of the dashboard starts at the first question mark of its URL. -/
theorem cutAt?_dashboardUrl (test : String) :
    Text.cutAt? '?' (dashboardUrl test) =
      some (dashboardBase ++ Text.formEncode test, dashboardQuery) := by
  refine Text.cutAt?_eq_some_iff.mpr ⟨?_, ?_⟩
  · rw [dashboardUrl, ← String.append_assoc]
    rfl
  · rw [String.toList_append, List.mem_append, not_or]
    exact ⟨by decide +kernel, notMem_formEncode (by decide) test⟩

/-- **The link to the dashboard says which test it is about, and nothing else.** Between the fixed
parts of its URL stands a component of letters, digits and a few marks, which reads as the name of
the test. No other test has the URL. Its query is the fixed one, whatever the name holds, and in the
summary of a regression the link ends where the URL does. -/
theorem dashboard_identifies (test : String) :
    ∃ url, dashboardUrl? (TestName.publicPrefix ++ test) = some url ∧
      url = dashboardBase ++ Text.formEncode test ++ ("?" ++ dashboardQuery) ∧
      (∀ c ∈ (Text.formEncode test).toList, Text.IsComponentChar c) ∧
      Text.formDecode? (Text.formEncode test) = some test ∧
      (∀ other, dashboardUrl? (TestName.publicPrefix ++ other) = some url → other = test) ∧
      Text.cutAt? '?' url = some (dashboardBase ++ Text.formEncode test, dashboardQuery) ∧
      '#' ∉ url.toList ∧
      ∀ a : Attempt, a.name = TestName.publicPrefix ++ test → a.isRegression = true →
        a.summary?.map links = some [instructionsUrl, url] := by
  refine ⟨dashboardUrl test, dashboardUrl?_public test, rfl, ?_,
    Text.formDecode?_formEncode test, ?_, cutAt?_dashboardUrl test, ?_, ?_⟩
  · exact fun c hc ↦ Text.isComponentChar_of_mem_formEncode hc
  · intro other hother
    rw [dashboardUrl?_public, Option.some.injEq] at hother
    exact dashboardUrl_injective hother
  · exact notMem_dashboardUrl (by decide) (by decide) (by decide +kernel) test
  · exact fun a hname hregression ↦ links_of_summary hname hregression

/-- A test whose name holds an escape, marks of HTML and of URLs, and other than ASCII. -/
def awkward : Attempt where
  name := "external/wpt/a b/%20+é\"><a?x=1#y"
  kind := .crashtest
  filePath := ""
  started := 0
  expected := .ofList [.pass]
  baselineText := none
  verdict := .crash
  took := 0
  outcomes := {}
  messages := []
  hasStderr := false

theorem dashboard_identifies_awkward :
    let test := "a b/%20+é\"><a?x=1#y"
    awkward.name = TestName.publicPrefix ++ test ∧ awkward.isRegression = true ∧
      Text.formEncode test = "a+b%2F%2520%2B%C3%A9%22%3E%3Ca%3Fx%3D1%23y" ∧
      awkward.summary?.map links = some [instructionsUrl,
        dashboardBase ++ Text.formEncode test ++ ("?" ++ dashboardQuery)] := by
  intro test
  have hname : awkward.name = TestName.publicPrefix ++ test := by decide +kernel
  have hregression : awkward.isRegression = true := by decide
  obtain ⟨url, -, rfl, -, -, -, -, -, hlinks⟩ := dashboard_identifies test
  exact ⟨hname, hregression, by decide +kernel, hlinks awkward hname hregression⟩

end Attempt

end WebTestRun
