import Mermaid.Keyword.Basic

/-!
# The keyword table

Every keyword stands in one entry, which says what it means, whether it declares a diagram, and how
it takes part in blocks. The order of the table is the order in which completion offers its words.
-/

namespace Mermaid.Keyword

/-- The words that declare a kind of diagram. -/
def diagramEntries : List Keyword := [
    { name := "graph", diagram := true, opensBlock := true,
      doc := some ("**Flowchart**\n\n" ++
        "Declares a new graph. Directions: `TD` (Top-Down), `LR` (Left-Right), etc."),
      snippets := [
        ⟨"Flowchart (TD)", "Top-Down Flowchart",
          "graph TD\n" ++
          "    $\x7b1:A\x7d[Start] --> B\x7bDecision\x7d\n" ++
          "    B -->|Yes| C[OK]\n" ++
          "    B -->|No| D[Cancel]"⟩,
        ⟨"Flowchart (LR)", "Left-Right Flowchart",
          "graph LR\n" ++
          "    $\x7b1:A\x7d[Start] --> B\x7bDecision\x7d\n" ++
          "    B -->|Yes| C[OK]\n" ++
          "    B -->|No| D[Cancel]"⟩] },
    { name := "flowchart", diagram := true, opensBlock := true,
      doc := some "**Flowchart**\n\nDeclares a new flowchart (newer syntax)." },
    { name := "sequenceDiagram", diagram := true, opensBlock := true,
      doc := some ("**Sequence Diagram**\n\n" ++
        "An interaction diagram that shows how processes operate with one another and " ++
        "in what order."),
      snippets := [
        ⟨"Sequence Diagram", "Interaction Diagram",
          "sequenceDiagram\n" ++
          "    participant $\x7b1:Alice\x7d\n" ++
          "    participant Bob\n" ++
          "    $\x7b1:Alice\x7d->>John: Hello John, how are you?\n" ++
          "    loop Healthcheck\n" ++
          "        John->>John: Fight against hypochondria\n" ++
          "    end\n" ++
          "    Note right of John: Rational thoughts <br/>prevail!\n" ++
          "    John-->>$\x7b1:Alice\x7d: Great!\n" ++
          "    John->>Bob: How about you?\n" ++
          "    Bob-->>John: Jolly good!"⟩] },
    { name := "classDiagram", diagram := true, opensBlock := true,
      doc := some ("**Class Diagram**\n\n" ++
        "Describes the structure of a system by showing the system's classes, their " ++
        "attributes, operations (or methods), and the relationships among objects."),
      snippets := [
        ⟨"Class Diagram", "OO Structure",
          "classDiagram\n" ++
          "    $\x7b1:Animal\x7d <|-- Duck\n" ++
          "    $\x7b1:Animal\x7d <|-- Fish\n" ++
          "    $\x7b1:Animal\x7d <|-- Zebra\n" ++
          "    class $\x7b1:Animal\x7d\x7b\n" ++
          "        +int age\n" ++
          "        +String gender\n" ++
          "        +isMammal()\n" ++
          "        +mate()\n" ++
          "    \x7d\n" ++
          "    class Duck\x7b\n" ++
          "        +String beakColor\n" ++
          "        +swim()\n" ++
          "        +quack()\n" ++
          "    \x7d"⟩] },
    { name := "stateDiagram", diagram := true, opensBlock := true,
      doc := some "**State Diagram**\n\nDescribes the behavior of a system." },
    { name := "stateDiagram-v2", diagram := true, opensBlock := true,
      doc := some ("**State Diagram**\n\n" ++
        "Describes the behavior of a system (Version 2)."),
      snippets := [
        ⟨"State Diagram", "State Machine",
          "stateDiagram-v2\n" ++
          "    [*] --> $\x7b1:Still\x7d\n" ++
          "    $\x7b1:Still\x7d --> [*]\n" ++
          "    $\x7b1:Still\x7d --> Moving\n" ++
          "    Moving --> $\x7b1:Still\x7d\n" ++
          "    Moving --> Crash\n" ++
          "    Crash --> [*]"⟩] },
    { name := "erDiagram", diagram := true, opensBlock := true,
      doc := some ("**Entity Relationship Diagram**\n\n" ++
        "Describes the structure of a database."),
      snippets := [
        ⟨"ER Diagram", "Entity Relationship",
          "erDiagram\n" ++
          "    $\x7b1:CUSTOMER\x7d ||--o\x7b ORDER : places\n" ++
          "    ORDER ||--|\x7b LINE-ITEM : contains\n" ++
          "    $\x7b1:CUSTOMER\x7d \x7d|..|\x7b DELIVERY-ADDRESS : uses"⟩] },
    { name := "gantt", diagram := true, opensBlock := true,
      doc := some ("**Gantt Chart**\n\n" ++
        "A type of bar chart that illustrates a project schedule."),
      snippets := [
        ⟨"Gantt Chart", "Project Schedule",
          "gantt\n" ++
          "    title $\x7b1:A Gantt Diagram\x7d\n" ++
          "    dateFormat  YYYY-MM-DD\n" ++
          "    section Section\n" ++
          "    A task           :a1, 2014-01-01, 30d\n" ++
          "    Another task     :after a1  , 20d\n" ++
          "    section Another\n" ++
          "    Task in sec      :2014-01-12  , 12d\n" ++
          "    another task      : 24d"⟩] },
    { name := "pie", diagram := true, opensBlock := true,
      doc := some "**Pie Chart**\n\nCircular statistical graphic.",
      snippets := [
        ⟨"Pie Chart", "Circular Statistics",
          "pie title $\x7b1:Pets adopted by volunteers\x7d\n" ++
          "    \"Dogs\" : 386\n" ++
          "    \"Cats\" : 85\n" ++
          "    \"Rats\" : 15"⟩] },
    { name := "journey", diagram := true, opensBlock := true,
      snippets := [
        ⟨"User Journey", "User Experience",
          "journey\n" ++
          "    title $\x7b1:My working day\x7d\n" ++
          "    section Go to work\n" ++
          "      Make tea: 5: Me\n" ++
          "      Go upstairs: 3: Me\n" ++
          "      Do work: 1: Me, Cat\n" ++
          "    section Go home\n" ++
          "      Go downstairs: 5: Me\n" ++
          "      Sit down: 5: Me"⟩] },
    { name := "gitGraph", diagram := true,
      snippets := [
        ⟨"GitGraph", "Git History",
          "gitGraph\n" ++
          "    commit\n" ++
          "    commit\n" ++
          "    branch $\x7b1:develop\x7d\n" ++
          "    checkout $\x7b1:develop\x7d\n" ++
          "    commit\n" ++
          "    commit\n" ++
          "    checkout main\n" ++
          "    merge $\x7b1:develop\x7d\n" ++
          "    commit"⟩] },
    { name := "mindmap", diagram := true, opensBlock := true,
      snippets := [
        ⟨"Mindmap", "Brainstorming",
          "mindmap\n" ++
          "  root(($\x7b1:mindmap\x7d))\n" ++
          "    Origins\n" ++
          "      Long history\n" ++
          "      ::icon(fa fa-book)\n" ++
          "      Popularisation\n" ++
          "        British popular psychology author Tony Buzan\n" ++
          "    Research\n" ++
          "      On effectiveness<br/>and features\n" ++
          "      On Automatic creation\n" ++
          "        Uses\n" ++
          "            Creative techniques\n" ++
          "            Strategic planning\n" ++
          "            Argument mapping"⟩] },
    { name := "timeline", diagram := true, opensBlock := true },
    { name := "zenuml", diagram := true },
    { name := "sankey-beta", diagram := true },
    { name := "quadrantChart", diagram := true },
    { name := "xyChart", diagram := true },
    { name := "block-beta", diagram := true, opensBlock := true },
    { name := "xychart-beta", diagram := true },
    { name := "classDiagram-v2", diagram := true },
    { name := "flowchart-elk", diagram := true },
    { name := "requirementDiagram", diagram := true },
    { name := "C4Context", diagram := true },
    { name := "C4Container", diagram := true },
    { name := "C4Component", diagram := true },
    { name := "C4Dynamic", diagram := true },
    { name := "C4Deployment", diagram := true },
    { name := "architecture-beta", diagram := true },
    { name := "packet-beta", diagram := true },
    { name := "kanban", diagram := true }]

/-- The words for the direction of a flowchart. -/
def directionEntries : List Keyword := [
    { name := "TD" },
    { name := "DT" },
    { name := "TB" },
    { name := "BT" },
    { name := "RL" },
    { name := "LR" }]

/-- The words inside a diagram. -/
def structureEntries : List Keyword := [
    { name := "subgraph", opensBlock := true,
      doc := some "**Subgraph**\n\nPartition the graph into a subgraph." },
    { name := "end", closesBlock := true,
      doc := some "**End**\n\nCloses a block (like `subgraph`)." },
    { name := "class" },
    { name := "participant",
      doc := some ("**Participant**\n\n" ++
        "Define a participant in a sequence diagram.") },
    { name := "actor",
      doc := some "**Actor**\n\nDefine an actor in a sequence diagram." },
    { name := "loop" },
    { name := "alt" },
    { name := "opt" },
    { name := "rect" },
    { name := "note",
      doc := some "**Note**\n\nAdd a note to the diagram." },
    { name := "over" },
    { name := "right" },
    { name := "left" },
    { name := "of" },
    { name := "box" },
    { name := "title" },
    { name := "accTitle" },
    { name := "accDescr" },
    { name := "section" },
    { name := "click",
      doc := some "**Click**\n\nBind a click event to a node." },
    { name := "callback" },
    { name := "linkStyle" },
    { name := "classDef",
      doc := some "**Class Definition**\n\nDefine a style class." },
    { name := "style",
      doc := some "**Style**\n\nApply specific styles to a node." },
    { name := "fill" },
    { name := "stroke" },
    { name := "stroke-width" },
    { name := "color" }]

/-- The documented edge glyphs. -/
def glyphEntries : List Keyword := [
    { name := "-->", glyph := true,
      doc := some "**Arrow**\n\nStandard link." },
    { name := "---", glyph := true,
      doc := some "**Link**\n\nOpen link." }]

/-- All entries. -/
def table : List Keyword := diagramEntries ++ directionEntries ++ structureEntries ++ glyphEntries

end Mermaid.Keyword
