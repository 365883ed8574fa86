namespace TransparencyLog.Command

def usage : List String := [
  "Usage: logtrust [--log-level LEVEL] COMMAND ...",
  "",
  "  keys generate --out PATH [--algorithm NAME] [--key-id ID] [--registry PATH] [--json]",
  "  checkpoint sign BODY --key PATH [--key-id ID] [--out PATH] [--json]",
  "  checkpoint verify CHECKPOINT [--registry PATH] [--json]",
  "  records sign CONTENT --package DIGEST --logs PATH --key PATH [--key-id ID] [--json]",
  "  records validate LOGS [--registry PATH] [--package DIGEST] [--workers N] [--json]",
  "  version"]

end TransparencyLog.Command
