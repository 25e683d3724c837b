/-! Settings to start from. -/
namespace PatchReview.Settings

/-- A file with settings that can be changed as needed. -/
def template : String := "\n".intercalate [
  "provider = \"mock\"",
  "format = \"summary\"",
  "excludes = [\"vendor\", \"node_modules\", \"*.lock\", \"docs/\"]",
  "# guidelines_file = \"CONTRIBUTING.md\"",
  "",
  "[context]",
  "diff_token_limit = 8000",
  "per_file_token_cap = 2000",
  "overflow_strategy = \"trim\"",
  "enable_semantic_chunking = false",
  "",
  "[policy]",
  "min_severity_to_comment = \"info\"",
  "max_comments = 50",
  "redact_secrets = true",
  "consolidate_similar_findings = false",
  "max_findings_per_file = 5",
  "severity_limits = \x7b critical = 10, major = 20 \x7d",
  "",
  "[rules]",
  "# include = [\"review-rules/*.toml\"]",
  "inline = [",
  "  \x7b id = \"no-debug-print\", applies_to = [\"**/*.py\"], severity = \"minor\", " ++
    "rationale = \"Debug output left in code.\", pattern = \"^\\\\s*print\\\\(\", " ++
    "suggestion = \"Use the logger instead.\" \x7d,",
  "]",
  "",
  "[prompts]",
  "# system_append = \"Focus on security issues.\"",
  "# user_append = \"\"",
  "extra = []",
  "",
  "[logging]",
  "level = \"warning\"",
  "json = false",
  ""]

end PatchReview.Settings
