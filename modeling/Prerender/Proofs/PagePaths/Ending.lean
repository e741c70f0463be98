import Prerender.PagePaths
import Prerender.Proofs.Except

/-!
# How a listing ends

A listed page has no parameters and lists nothing, or has parameters but no path function, or calls
that function once and reads its answer. `staticPaths_ends` says so ending by ending (`Ends`).
Whatever is raised there leaves the coroutine that lists the paths.
-/

namespace Prerender

open PagePaths

namespace ListedPage

/-- The arguments of a path function. -/
def arguments (locales : Locales) : Arguments :=
  .locales locales.all locales.default

/-- A page has parameters and a path function, which is called behind some calls and answers. -/
structure Answers (page : ListedPage) (locales : Locales) (calls : List Call)
    (params : List SegmentParam) (function : UserFunction) (answer : Except Raised Value) :
    Prop where
  declared : page.params = .ok params
  dynamic : params ≠ []
  exported : Exports.pathsFunction? page.module.exports = some function
  answered : function.run calls (arguments locales) = answer

/-- How the listing of a page ends behind some calls, and the calls that it leaves behind. -/
inductive Ends (page : ListedPage) (locales : Locales) (calls : List Call) :
    Except Raised (StaticPaths Revalidate) × List Call → Prop where
  /-- The parameters are not declared well. -/
  | undeclared {failure : Failure} (refused : page.params = .error failure) :
    Ends page locales calls (.error (.failure failure), calls)
  /-- There is nothing to list. -/
  | static (static : page.params = .ok []) :
    Ends page locales calls (.ok { revalidate := .never }, calls)
  /-- The exports of the module cannot be read. -/
  | unreadable {params : List SegmentParam} {raised : Raised} (declared : page.params = .ok params)
      (dynamic : params ≠ []) (unread : Exports.raised? page.module.exports = some raised) :
    Ends page locales calls (.error raised.leaving, calls)
  /-- There is no path function. -/
  | onRequest {params : List SegmentParam} (declared : page.params = .ok params)
      (dynamic : params ≠ []) (readable : Exports.raised? page.module.exports = none)
      (silent : Exports.pathsFunction? page.module.exports = none) :
    Ends page locales calls (.ok { fallback := .blocking, revalidate := .never }, calls)
  /-- The path function raises an exception. -/
  | raised {params : List SegmentParam} {function : UserFunction} {raised : Raised}
      (answers : page.Answers locales calls params function (.error raised)) :
    Ends page locales calls
      (.error (page.raisedAs raised.leaving).leaving, calls ++ [⟨function.name, arguments locales⟩])
  /-- The answer is not a listing. -/
  | malformed {params : List SegmentParam} {function : UserFunction} {answer : Value}
      {raised : Raised} (answers : page.Answers locales calls params function (.ok answer))
      (refused : readListing page answer = .error raised) :
    Ends page locales calls (.error raised.leaving, calls ++ [⟨function.name, arguments locales⟩])
  /-- One of the entries is not read. -/
  | unread {params : List SegmentParam} {function : UserFunction} {answer : Value}
      {listing : Listing} {raised : Raised}
      (answers : page.Answers locales calls params function (.ok answer))
      (accepted : readListing page answer = .ok listing)
      (refused : readEntries page params locales listing.entries = .error raised) :
    Ends page locales calls (.error raised.leaving, calls ++ [⟨function.name, arguments locales⟩])
  /-- The paths are listed. -/
  | listed {params : List SegmentParam} {function : UserFunction} {answer : Value}
      {listing : Listing} {paths : List (ParamRecord × String)}
      (answers : page.Answers locales calls params function (.ok answer))
      (accepted : readListing page answer = .ok listing)
      (read : readEntries page params locales listing.entries = .ok paths) :
    Ends page locales calls
      (.ok
        { paths := (PagePaths.distinctFrom [] paths).map (·.1)
          fallback := listing.fallback
          revalidate := .never
          pathnames := (PagePaths.distinctFrom [] paths).map (·.2) },
        calls ++ [⟨function.name, arguments locales⟩])

/-- Exports with a path function can be read. -/
theorem raised?_of_pathsFunction? {exports : Value} {function : UserFunction}
    (exported : Exports.pathsFunction? exports = some function) :
    Exports.raised? exports = none := by
  cases exports with
  | unreadable => cases exported
  | _ => rfl

/-- What a page lists is read off the answer of its path function. -/
theorem Answers.staticPaths_eq {page : ListedPage} {locales : Locales} {calls : List Call}
    {params : List SegmentParam} {function : UserFunction} {answer : Except Raised Value}
    (answers : page.Answers locales calls params function answer) :
    page.staticPaths locales calls
      = ((pathsOf page params locales (answer.mapError Raised.leaving)).mapError Raised.leaving,
          calls ++ [⟨function.name, arguments locales⟩]) := by
  obtain ⟨param, rest, rfl⟩ := List.exists_cons_of_ne_nil answers.dynamic
  simp only [ListedPage.staticPaths, answers.declared, answers.exported,
    raised?_of_pathsFunction? answers.exported, UserFunction.invoke]
  rw [← answers.answered]
  rfl

theorem Answers.ends {page : ListedPage} {locales : Locales} {calls : List Call}
    {params : List SegmentParam} {function : UserFunction} {answer : Except Raised Value}
    (answers : page.Answers locales calls params function answer) :
    Ends page locales calls (page.staticPaths locales calls) := by
  rw [answers.staticPaths_eq]
  cases answer with
  | error raised => exact .raised answers
  | ok answer =>
    simp only [Except.mapError, pathsOf, bind, Except.bind]
    cases accepted : readListing page answer with
    | error raised => exact .malformed answers accepted
    | ok listing =>
      simp only
      cases read : readEntries page params locales listing.entries with
      | error raised => exact .unread answers accepted read
      | ok paths => exact .listed answers accepted read

/-- Every listing has one of these endings. -/
theorem staticPaths_ends (page : ListedPage) (locales : Locales) (calls : List Call) :
    Ends page locales calls (page.staticPaths locales calls) := by
  cases declared : page.params with
  | error failure =>
    rw [ListedPage.staticPaths, declared]
    exact .undeclared declared
  | ok params =>
    cases params with
    | nil =>
      rw [ListedPage.staticPaths, declared]
      exact .static declared
    | cons param rest =>
      have dynamic : param :: rest ≠ [] := List.cons_ne_nil param rest
      cases exported : Exports.pathsFunction? page.module.exports with
      | some function => exact Answers.ends ⟨declared, dynamic, exported, rfl⟩
      | none =>
        cases readable : Exports.raised? page.module.exports with
        | some raised =>
          simp only [ListedPage.staticPaths, declared, readable]
          exact .unreadable declared dynamic readable
        | none =>
          simp only [ListedPage.staticPaths, declared, readable, exported]
          exact .onRequest declared dynamic readable exported

/-- The path function of a page answers with a listing behind some calls. -/
def Lists (page : ListedPage) (locales : Locales) (calls : List Call)
    (listing : Listing) : Prop :=
  ∃ function answer, Exports.pathsFunction? page.module.exports = some function
    ∧ function.run calls (arguments locales) = .ok answer
    ∧ readListing page answer = .ok listing

/-- What a page lists is what its entries are read as, without repetitions. -/
theorem Lists.staticPaths_eq {page : ListedPage} {locales : Locales} {calls : List Call}
    {listing : Listing} {params : List SegmentParam} (lists : page.Lists locales calls listing)
    (declared : page.params = .ok params) (dynamic : params ≠ []) :
    (page.staticPaths locales calls).1
      = ((readEntries page params locales listing.entries).mapError Raised.leaving).map fun paths =>
          { paths := (PagePaths.distinctFrom [] paths).map (·.1)
            fallback := listing.fallback
            revalidate := .never
            pathnames := (PagePaths.distinctFrom [] paths).map (·.2) } := by
  obtain ⟨function, answer, exported, answered, read⟩ := lists
  have answers : page.Answers locales calls params function (.ok answer) :=
    ⟨declared, dynamic, exported, answered⟩
  rw [answers.staticPaths_eq]
  simp only [Except.mapError, pathsOf, read, Except.bind, bind]
  cases readEntries page params locales listing.entries <;> rfl

end ListedPage

end Prerender
