/-! The page of the dashboard, which shows the status and the log and renews them every five seconds. -/

namespace MediaRelay.Dashboard

def pageLines : List String := [
  "<!doctype html>",
  "<html>",
  "<head><meta charset=\"utf-8\"><title>mediabot</title></head>",
  "<body>",
  "<h1>mediabot</h1>",
  "<pre id=\"status\">loading...</pre>",
  "<pre id=\"logs\"></pre>",
  "<script>",
  "async function refresh() \x7b",
  "  const status = await fetch('/api/status').then(r => r.json());",
  "  document.getElementById('status').textContent = JSON.stringify(status, null, 2);",
  "  const logs = await fetch('/api/logs').then(r => r.json());",
  "  document.getElementById('logs').textContent = logs.lines.join('\\n');",
  "\x7d",
  "refresh();",
  "setInterval(refresh, 5000);",
  "</script>",
  "</body>",
  "</html>"]

def page : String := String.join (pageLines.map (· ++ "\n"))

end MediaRelay.Dashboard
